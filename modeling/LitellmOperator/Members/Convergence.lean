import LitellmOperator.Pass.Kinds
import LitellmOperator.Record.Basic

/-! # Members that are declared

A kind whose spec declares who its members are, each by an email and with a role. LiteLLM keeps the
pairs of a team or an organization; a `Roster` says which requests change them. A reconcile looks
up who is there, adds who is missing and removes who is not declared, or does not look at all. It
goes by the emails, so whether it ends with the declared pairs depends on the roles that were there
before (`Rostered.converged_iff`).
-/

set_option autoImplicit false

namespace LitellmOperator

open Effect Go Kube Ctl Scene Record Protocol

/-- The members of a team or an organization: pairs of an email and a role. -/
abbrev Pairs : Type := List (String × String)

structure Roster where
  R : Reconciler
  /-- The team or organization that a resource is bound to. -/
  id : R.Status → String
  /-- What a request that was carried out does to the members of the one with this id. -/
  change : String → R.Api → Option (Change String String)
  declared : R.Spec → Pairs
  /-- The spec leaves the members to the operator. -/
  applies : R.Spec → Prop
  /-- A reconcile does not look at the members. -/
  skips : R.Spec → Bool
  skips_declared : ∀ s, skips s = true → declared s = []

namespace Roster

variable (K : Roster)

/-- The members of the one with the given id, if `start` were the members of each before the
requests. -/
def members (start : String → Pairs) (id : String) (requests : List K.R.Api) : Pairs :=
  changed (start id) (requests.filterMap (K.change id))

theorem members_append (start : String → Pairs) (id : String) (rs rs' : List K.R.Api) :
    K.members start id (rs ++ rs') =
      changed (K.members start id rs') (rs.filterMap (K.change id)) := by
  unfold members
  rw [List.filterMap_append, changed_append]

/-- Requests that are not about members. -/
def IsAside (req : K.R.Api) : Prop := ∀ id, K.change id req = none

variable {K}

variable {id : String}

variable {start : String → Pairs}

theorem members_of_aside {rs rs' : List K.R.Api} (h : ∀ req ∈ rs, K.IsAside req) :
    K.members start id (rs ++ rs') = K.members start id rs' := by
  have hnone : rs.filterMap (K.change id) = [] :=
    List.filterMap_eq_nil_iff.mpr (fun req hreq => h req hreq id)
  rw [members_append, hnone]
  rfl

theorem members_of_beside {τ τ' : K.R.RScene} (h : Beside K.IsAside τ τ') :
    K.members start id τ'.requests = K.members start id τ.requests := by
  obtain ⟨l, hl, hN⟩ := h.log
  unfold Scene.requests
  rw [hl, List.map_append]
  refine members_of_aside (fun req hreq => ?_)
  obtain ⟨s, hs, rfl⟩ := List.mem_map.mp hreq
  exact hN s hs

theorem members_requests {A : Type} {xs : List A} {req : A → K.R.Api} {f : A → Change String String}
    (h : ∀ x ∈ xs, K.change id (req x) = some (f x)) (rs : List K.R.Api) :
    K.members start id ((xs.map req).reverse ++ rs) =
      changed (K.members start id rs) (xs.reverse.map f) := by
  have hmap : ((xs.map req).reverse).filterMap (K.change id) = xs.reverse.map f := by
    rw [← List.map_reverse, List.filterMap_map, ← List.filterMap_eq_map]
    exact List.filterMap_congr (fun x hx => h x (List.mem_reverse.mp hx))
  rw [members_append, hmap]

variable {σ τ : K.R.RScene}

theorem members_of_since {P : Type} {part : K.R.Status → P} {N : K.R.Api → Prop} {cr v : K.R.CR}
    (hN : ∀ req, N req → K.IsAside req) (h : Since part N cr σ τ v) :
    K.members start id τ.requests = K.members start id σ.requests := by
  obtain ⟨l, hl, hall⟩ := h.log
  unfold Scene.requests
  rw [hl, List.map_append]
  refine members_of_aside (fun req hreq => ?_)
  obtain ⟨s, hs, rfl⟩ := List.mem_map.mp hreq
  exact hN _ (hall s hs)

/-- The members are what a reconcile of `cr` brings those to that were there in the scene `σ`. -/
def Brought (K : Roster) (start : String → Pairs) (cr : K.R.CR) (σ τ : K.R.RScene)
    (id : String) : Prop :=
  ∀ p, p ∈ K.members start id τ.requests ↔
    if K.skips cr.spec then p ∈ K.members start id σ.requests
    else Reached (K.members start id σ.requests) (K.declared cr.spec) p

/-- The members of the spec who are missing were added, and those who are not in the spec removed,
according to a listing of who was there. -/
theorem brought_of_diff {X D : Type} {cr : K.R.CR} {listing : List X} {declared : List D}
    (pair : X → String × String) (decl : D → String × String) (gone : X → String → Bool)
    (addReq : D → K.R.Api) (removeReq : X → K.R.Api) {rs : List K.R.Api}
    (hadd : ∀ d ∈ declared, K.change id (addReq d) = some (.add (decl d)))
    (hremove : ∀ x, K.change id (removeReq x) = some (.drop (gone x)))
    (hgone : ∀ x ∈ listing, ∀ k, gone x k = true ↔ k = (pair x).1)
    (hlist : ∀ p, p ∈ listing.map pair ↔ p ∈ K.members start id σ.requests)
    (hdeclared : K.declared cr.spec = declared.map decl) (hskip : ¬ K.skips cr.spec = true)
    (hrs : K.members start id rs = K.members start id σ.requests)
    (hrequests : τ.requests =
      ((listing.filter (fun x => !(declared.map (fun d => (decl d).1)).contains (pair x).1)).map
        removeReq).reverse ++
      (((declared.filter (fun d => !(listing.map (fun x => (pair x).1)).contains (decl d).1)).map
        addReq).reverse ++ rs)) :
    K.Brought start cr σ τ id := by
  intro p
  rw [hrequests, members_requests (fun x _ => hremove x),
    members_requests (fun d hd => hadd d (List.mem_of_mem_filter hd)), hrs, if_neg hskip, hdeclared]
  exact mem_changed_diff pair decl gone hlist hgone p

/-- The copy `v` can be reported, and the members of what it is bound to are as `cr` brings
them. -/
def Manned (K : Roster) (start : String → Pairs) (cr : K.R.CR) (σ τ : K.R.RScene)
    (v : K.R.CR) : Prop :=
  ∃ c, τ.Now c ∧ v.rv = c.rv ∧ c.metadata.deleting = false ∧ K.Brought start cr σ τ (K.id v.status)

theorem Manned.beside {cr v v' : K.R.CR} {σ τ τ' : K.R.RScene} (h : K.Manned start cr σ τ v)
    (hb : Beside K.IsAside τ τ') (hrv : v'.rv = v.rv) (hid : K.id v'.status = K.id v.status) :
    K.Manned start cr σ τ' v' := by
  obtain ⟨c, hnow, hc, hlive, hbrought⟩ := h
  refine ⟨c, hb.now hnow, hrv.trans hc, hlive, ?_⟩
  unfold Brought at hbrought ⊢
  rw [hid, members_of_beside hb]
  exact hbrought

/-- The members that were there in the scene `σ` are left over from no other role, nor at all if a
reconcile does not look. -/
def Concordant (K : Roster) (start : String → Pairs) (cr : K.R.CR) (σ : K.R.RScene)
    (id : String) : Prop :=
  (K.skips cr.spec = true → K.members start id σ.requests = []) ∧
    ∀ p ∈ K.members start id σ.requests, ∀ q ∈ K.declared cr.spec, p.1 = q.1 → p = q

/-- The members are those that the spec declares. -/
def Converged (K : Roster) (start : String → Pairs) (cr : K.R.CR) (τ : K.R.RScene)
    (id : String) : Prop :=
  ∀ p, p ∈ K.members start id τ.requests ↔ p ∈ K.declared cr.spec

theorem converged_iff_of_brought {cr : K.R.CR}
    (hdistinct : ((K.declared cr.spec).map Prod.fst).Nodup) (h : K.Brought start cr σ τ id) :
    K.Converged start cr τ id ↔ K.Concordant start cr σ id := by
  have hcongr : K.Converged start cr τ id ↔ ∀ p, (if K.skips cr.spec
      then p ∈ K.members start id σ.requests
      else Reached (K.members start id σ.requests) (K.declared cr.spec) p) ↔
        p ∈ K.declared cr.spec :=
    forall_congr' (fun p => iff_congr (h p) Iff.rfl)
  rw [hcongr]
  by_cases hskip : K.skips cr.spec = true
  · -- nothing is declared, and nothing was done
    have hnone := K.skips_declared _ hskip
    simp only [if_pos hskip]
    unfold Concordant
    rw [hnone]
    constructor
    · intro hall
      refine ⟨fun _ => List.eq_nil_iff_forall_not_mem.mpr (fun p hp => ?_), fun p _ q hq => ?_⟩
      · exact absurd ((hall p).mp hp) List.not_mem_nil
      · cases hq
    · rintro ⟨hempty, -⟩ p
      rw [hempty hskip]
  · simp only [if_neg hskip]
    rw [reached_iff hdistinct]
    exact ⟨fun hall => ⟨fun hs => absurd hs hskip, hall⟩, fun hc => hc.2⟩

end Roster

/-- A roster with what is shown of its controller. -/
structure Rostered (lib : Ext) extends Roster where
  controller : Controller R.Spec R.Status R.Api
  reconcile : ∀ req, R.reconcile lib req = controller.reconcile lib req
  conditions : ∀ st cs, controller.conditions (controller.setConditions st cs) = cs
  id_setConditions : ∀ st cs, id (controller.setConditions st cs) = id st
  /-- LiteLLM tells who the members are, and carries out what changes them. -/
  serves : (String → Pairs) → R.RPass → Prop
  body : ∀ {E : R.RPass} {start : String → Pairs} {home : String} {conn : ResolvedInstance}
    {v : R.CR} {τ : R.RScene}, serves start E → τ.Now v → v.metadata.deleting = false →
    applies v.spec → (E.rules R.kind lib home).wpE (controller.body v conn)
      (fun out τ' => toRoster.Manned start v τ τ' out.1) (fun _ _ => True) τ

namespace Rostered

variable {lib : Ext} (K : Rostered lib)

/-- **One reconcile.** If it is successful, the members end up as declared exactly if those who were
there had the declared roles. -/
theorem converged_iff {req : NamespacedName} {cr r : K.R.CR} {σ : K.R.RScene} {E : K.R.RPass}
    {start : String → Pairs} (hnow : σ.Now cr) (hlive : cr.metadata.deleting = false)
    (happlies : K.applies cr.spec) (hdistinct : ((K.declared cr.spec).map Prod.fst).Nodup)
    (hserve : K.serves start E)
    (hsuccess : Pass.Success K.controller (Reconciler.done lib req σ E) r) :
    K.Converged start cr (Reconciler.done lib req σ E) (K.id r.status) ↔
      K.Concordant start cr σ (K.id r.status) := by
  refine K.converged_iff_of_brought hdistinct ?_
  unfold Reconciler.done at hsuccess ⊢
  rw [K.reconcile] at hsuccess ⊢
  have hbody : ∀ conn v τ, Pass.resolved lib E K.controller cr = some (.ok conn) →
      Pass.Alike cr v → τ.Now v → Rest σ τ →
      (E.rules K.R.kind lib req.ns).wpE (K.controller.body v conn)
        (fun out τ' => ∃ c, τ'.Now c ∧ out.1.rv = c.rv ∧ c.metadata.deleting = false ∧
          K.Brought start cr σ τ' (K.id out.1.status)) (fun _ _ => True) τ := by
    intro conn v τ _ hv hnow' hrest
    have hrequests : τ.requests = σ.requests := congrArg (List.map _) hrest.log
    have hlook : (E.rules K.R.kind lib req.ns).wpE (K.controller.body v conn) _ _ τ :=
      K.body hserve hnow' (hv.deleting.trans hlive) (by rw [hv.spec]; exact happlies)
    unfold Roster.Manned Roster.Brought at hlook
    unfold Roster.Brought
    rw [hrequests, hv.spec] at hlook
    exact hlook
  obtain ⟨v, c, τ, hbrought, hst⟩ := Pass.of_success
    (P := fun v _ τ' => K.Brought start cr σ τ' (K.id v.status)) hnow hlive K.conditions hbody
    hsuccess
  have hid : K.id r.status = K.id v.status := by
    obtain ⟨rv, gen, rfl⟩ := hst.stamped
    exact K.id_setConditions _ _
  have hrequests : (E.run K.R.kind lib req.ns (K.controller.reconcile lib req) σ).2.requests =
      τ.requests := congrArg (List.map _) hst.log
  unfold Roster.Brought
  rw [hid, hrequests]
  exact hbrought

end Rostered

/-! ## Declared members

A team in the mode `crd` and an organization have the members that their spec declares, after one
successful reconcile, unless a member was there with another role (`membership_converges_iff`). The
role of a member who is there already is never changed (`role_not_updated`). An organization whose
spec declares no members is not looked at, and keeps those it has.
-/

/-! ## Teams -/

namespace Team

def memberChange (id : String) : TeamApi → Option (Change String String)
  | .addMember team email role => if team = id then some (.add (email, role)) else none
  | .removeMember team email => if team = id then some (.drop (fun e => e == email)) else none
  | _ => none

@[reducible] def roster : Roster where
  R := .team
  id st := (show LiteLLMTeamStatus from st).litellmTeamID
  change := memberChange
  declared spec := (show LiteLLMTeamSpec from spec).members.map (fun m => (m.email, m.role))
  applies spec := (show LiteLLMTeamSpec from spec).memberManagement = "crd"
  skips _ := false
  skips_declared _ h := by cases h

/-- LiteLLM lists the members there are, and adds and removes members when asked to. -/
structure ServesMembers (start : String → Pairs) (E : Reconciler.team.RPass) : Prop where
  lists : ∀ (τ : Reconciler.team.RScene) conn id, ∃ ms : List TeamMemberInfo,
    E.serve τ conn (.listMembers id) = .ok ms ∧
      ∀ p, p ∈ ms.map (fun m => (m.email, m.role)) ↔ p ∈ roster.members start id τ.requests
  adds : ∀ τ conn id email role, ∃ a, E.serve τ conn (.addMember id email role) = .ok a
  removes : ∀ τ conn id email, ∃ a, E.serve τ conn (.removeMember id email) = .ok a

variable {lib : Ext} {home : String} {conn : ResolvedInstance} {cr team : LiteLLMTeam}
variable {E : TeamPass} {start : String → Pairs}
variable {σ τ : TeamScene}

theorem aside_of_settling (req : TeamApi) (h : Settling req) : roster.IsAside req := by
  intro id
  cases req <;> first | rfl | exact h.elim

/-- The members of the spec who are missing are added, and the others are removed. -/
theorem wpE_crd_manned (hE : ServesMembers start E) (h : Settled cr σ τ team) :
    (E.rules kind lib home).wpE (reconcileMembersCRD conn team)
      (fun team' τ' => roster.Manned start cr σ τ' team') (fun _ _ => True) τ := by
  obtain ⟨c, hnow, hrv, hc⟩ := h.stored
  obtain ⟨ms, hms, hlist⟩ := hE.lists τ conn team.status.litellmTeamID
  unfold reconcileMembersCRD listMembers
  rw [wpE_bind, wpE_orFail]
  refine Pass.wp_api (fun a τ₁ ha hcar => ?_) (fun _ _ _ _ => trivial)
  obtain rfl : ms = a := Except.ok.inj (hms.symm.trans ha)
  simp only [wpE_bind, wpE_lift]
  refine wp_mono (Pass.wp_requests team.spec.members _
    (fun m => .addMember team.status.litellmTeamID m.email m.role)
    (fun m τ => hE.adds τ conn _ _ _)) (fun _ τ₂ h₂ => ?_)
  refine wp_mono (Pass.wp_requests (ms.map (·.email)) _ (.removeMember team.status.litellmTeamID)
    (fun m τ => hE.removes τ conn _ _)) (fun _ τ₃ h₃ => ?_)
  have hstore : τ₃.world.store = τ.world.store := (h₃.1.trans h₂.1).trans hcar.store
  have hlog : τ₁.requests = .listMembers team.status.litellmTeamID :: τ.requests :=
    congrArg (List.map _) hcar.log
  -- the listing itself changes nothing
  have hbefore : roster.members start team.status.litellmTeamID τ₁.requests =
      roster.members start team.status.litellmTeamID σ.requests := by
    rw [hlog]
    exact Roster.members_of_since (K := roster) aside_of_settling h
  refine ⟨c, ?_, hrv, hc.live, ?_⟩
  · unfold Scene.Now
    rw [hstore]
    exact hnow
  · rw [List.filter_map, List.map_map, h₂.2] at h₃
    refine Roster.brought_of_diff (fun m : TeamMemberInfo => (m.email, m.role))
      (fun m : TeamMember => (m.email, m.role)) (fun m e => e == m.email)
      (fun m => .addMember team.status.litellmTeamID m.email m.role)
      (fun m => .removeMember team.status.litellmTeamID m.email) (fun m _ => if_pos rfl)
      (fun m => if_pos rfl) (fun m _ e => beq_iff_eq) (fun p => ?_) ?_ Bool.false_ne_true hbefore
      h₃.2
    · rw [hlist, Roster.members_of_since (K := roster) aside_of_settling h]
    · rw [h.copy.spec]

theorem wpE_members_manned (hE : ServesMembers start E) (h : Settled cr σ τ team)
    (hcrd : cr.spec.memberManagement = "crd") :
    (E.rules kind lib home).wpE (reconcileMembers conn team)
      (fun team' τ' => roster.Manned start cr σ τ' team') (fun _ _ => True) τ := by
  unfold reconcileMembers
  rw [h.copy.spec, hcrd]
  exact wpE_crd_manned hE h

theorem wpE_finishTeam_manned (hE : ServesMembers start E) (h : Settled cr σ τ team)
    (hcrd : cr.spec.memberManagement = "crd") :
    (E.rules kind lib home).wpE (finishTeam conn team)
      (fun out τ' => roster.Manned start cr σ τ' out.1) (fun _ _ => True) τ := by
  unfold finishTeam
  rw [wpE_bind, wpE_orFail]
  refine wp_mono (wpE_members_manned hE h hcrd) (fun r τ₁ h₁ => ?_)
  rcases r with e | team₁
  · trivial
  dsimp only at h₁ ⊢
  rw [wpE_bind, wpE_orFail]
  refine wp_mono (wpE_reconcileLogging_beside (N := roster.IsAside)
    (fun _ _ _ => rfl) (fun _ _ => rfl)) (fun r τ₂ h₂ => ?_)
  rcases r with e | team₂
  · trivial
  obtain ⟨⟨synced, disabled, rfl⟩, hb₂⟩ := h₂
  dsimp only
  rw [wpE_bind, wpE_lift]
  refine Pass.wp_besideApi (N := roster.IsAside) (fun _ => rfl) (fun info τ₃ hb₃ => ?_)
  refine h₁.beside (hb₂.trans hb₃) ?_ ?_
  · cases info <;> rfl
  · cases info <;> rfl

def rostered (lib : Ext) : Rostered lib where
  toRoster := roster
  controller := controller lib
  reconcile _ := rfl
  conditions _ _ := rfl
  id_setConditions _ _ := rfl
  serves := ServesMembers
  body hE hnow hlive hcrd := wpE_reconcileTeam_now hnow hlive (fun _ _ _ => trivial)
      (fun _ _ h _ => wpE_finishTeam_manned hE h hcrd)

end Team

/-! ## Organizations -/

namespace Organization

/-- A member is removed by its user id; `user` gives the user id of an email. -/
def memberChange (user : String → String) (id : String) :
    OrganizationApi → Option (Change String String)
  | .addMember req =>
    if req.organizationID = id then some (.add (req.member.userEmail, req.member.role)) else none
  | .deleteMember org userID =>
    if org = id then some (.drop (fun e => user e == userID)) else none
  | _ => none

@[reducible] def roster (user : String → String) : Roster where
  R := .organization
  id st := (show LiteLLMOrganizationStatus from st).litellmOrganizationID
  change := memberChange user
  declared spec := (show LiteLLMOrganizationSpec from spec).members.map (fun m => (m.email, m.role))
  applies spec := ∀ m ∈ (show LiteLLMOrganizationSpec from spec).members, m.role ≠ ""
  skips spec := (show LiteLLMOrganizationSpec from spec).members.isEmpty
  skips_declared s h := by
    rw [List.isEmpty_iff.mp h]
    rfl

/-- LiteLLM tells who the members are, each with the user id of its email, and adds and removes
members when asked to. -/
structure ServesMembers (user : String → String) (start : String → Pairs)
    (E : Reconciler.organization.RPass) : Prop where
  apart : ∀ e e', user e = user e' → e = e'
  tells : ∀ (τ : Reconciler.organization.RScene) conn id, ∃ info : OrganizationInfo,
    E.serve τ conn (.get id) = .ok info ∧ (∀ m ∈ info.members, m.userID = user m.email) ∧
      ∀ p, p ∈ info.members.map (fun m => (m.email, m.role)) ↔
        p ∈ (roster user).members start id τ.requests
  adds : ∀ τ conn req, ∃ a, E.serve τ conn (.addMember req) = .ok a
  removes : ∀ τ conn id userID, ∃ a, E.serve τ conn (.deleteMember id userID) = .ok a

variable {lib : Ext} {home : String} {conn : ResolvedInstance} {cr org : LiteLLMOrganization}
variable {E : Pass LiteLLMOrganizationSpec LiteLLMOrganizationStatus OrganizationApi}
variable {user : String → String} {start : String → Pairs}
variable {σ τ : Scene LiteLLMOrganizationSpec LiteLLMOrganizationStatus OrganizationApi}

/-- The requests before the members. -/
def Settling : OrganizationApi → Prop
  | .create _ => True
  | .update _ => True
  | .get _ => True
  | _ => False

theorem aside_of_settling (req : OrganizationApi) (h : Settling req) :
    (roster user).IsAside req := by
  intro id
  cases req <;> first | rfl | exact h.elim

/-- Up to its members nothing is asked of the status of an organization. -/
abbrev Settled : LiteLLMOrganization →
    Scene LiteLLMOrganizationSpec LiteLLMOrganizationStatus OrganizationApi →
    Scene LiteLLMOrganizationSpec LiteLLMOrganizationStatus OrganizationApi →
    LiteLLMOrganization → Prop :=
  Since (fun _ => ()) Settling

theorem wpE_createOrUpdate_settled (h : Settled cr σ τ org) :
    (E.rules kind lib home).wpE (createOrUpdateOrganization lib conn org)
      (fun v τ' => Settled cr σ τ' v) (fun f τ' => Settled cr σ τ' f.cr) τ := by
  unfold createOrUpdateOrganization
  split
  · unfold createOrganization
    rw [wpE_bind, wpE_orFail]
    refine Since.wp_api h (by trivial) (fun r τ₁ h₁ => ?_)
    rcases r with e | resp
    · exact h₁
    have hbind : Settled cr σ τ₁ (org.withStatus { org.status with
        litellmOrganizationID := (show OrganizationCreateResponse from resp).organizationID
        synced := true }) := h₁.withStatus rfl
    exact wpE_post hbind.wpE_recordCreated (fun _ _ h₂ => h₂.1)
  · unfold updateOrganization
    dsimp only
    split
    · exact h
    · simp only [wpE_bind, wpE_orFail]
      refine Since.wp_api h (by trivial) (fun r τ₁ h₁ => ?_)
      cases r with
      | error e => exact h₁
      | ok _ =>
        refine wpE_post h₁.wpE_storeSyncHash (fun v τ₂ h₂ => ?_)
        exact h₂.1.withStatus rfl

theorem wpE_members_manned (hE : ServesMembers user start E) (h : Settled cr σ τ org)
    (hroles : ∀ m ∈ cr.spec.members, m.role ≠ "") (hsome : ¬ cr.spec.members.isEmpty = true) :
    (E.rules kind lib home).wpE (reconcileMembers conn org)
      (fun org' τ' => (roster user).Manned start cr σ τ' org') (fun _ _ => True) τ := by
  obtain ⟨c, hnow, hrv, hc⟩ := h.stored
  obtain ⟨info, hinfo, husers, hlist⟩ := hE.tells τ conn org.status.litellmOrganizationID
  unfold reconcileMembers
  rw [wpE_bind, wpE_orFail]
  refine Pass.wp_api (fun a τ₁ ha hcar => ?_) (fun _ _ _ _ => trivial)
  obtain rfl : info = a := Except.ok.inj (hinfo.symm.trans ha)
  simp only [wpE_bind, wpE_lift]
  refine wp_mono (Pass.wp_requests org.spec.members _
    (fun m => .addMember ⟨org.status.litellmOrganizationID,
      ⟨m.email, if m.role = "" then "internal_user" else m.role⟩⟩)
    (fun m τ => hE.adds τ conn _)) (fun _ τ₂ h₂ => ?_)
  refine wp_mono (Pass.wp_requests info.members _
    (fun m => .deleteMember org.status.litellmOrganizationID m.userID)
    (fun m τ => hE.removes τ conn _ _)) (fun _ τ₃ h₃ => ?_)
  have hstore : τ₃.world.store = τ.world.store := (h₃.1.trans h₂.1).trans hcar.store
  have hlog : τ₁.requests = .get org.status.litellmOrganizationID :: τ.requests :=
    congrArg (List.map _) hcar.log
  have hbefore : (roster user).members start org.status.litellmOrganizationID τ₁.requests =
      (roster user).members start org.status.litellmOrganizationID σ.requests := by
    rw [hlog]
    exact Roster.members_of_since (K := roster user) aside_of_settling h
  refine ⟨c, ?_, hrv, hc.live, ?_⟩
  · unfold Scene.Now
    rw [hstore]
    exact hnow
  · rw [h₂.2] at h₃
    refine Roster.brought_of_diff (fun m : OrgMemberInfo => (m.email, m.role))
      (fun m : OrganizationMember => (m.email, m.role)) (fun m e => user e == m.userID)
      (fun m => .addMember ⟨org.status.litellmOrganizationID,
        ⟨m.email, if m.role = "" then "internal_user" else m.role⟩⟩)
      (fun m => .deleteMember org.status.litellmOrganizationID m.userID) (fun m hm => ?_)
      (fun m => if_pos rfl) (fun m hm e => ?_) (fun p => ?_) ?_ hsome hbefore h₃.2
    · -- the role is set, so it is not replaced by the default
      rw [h.copy.spec] at hm
      rw [if_neg (hroles m hm)]
      exact if_pos rfl
    · rw [beq_iff_eq, husers m hm]
      exact ⟨fun he => hE.apart _ _ he, fun he => congrArg user he⟩
    · rw [hlist, Roster.members_of_since (K := roster user) aside_of_settling h]
    · rw [h.copy.spec]

theorem wpE_specMembers_manned (hE : ServesMembers user start E) (h : Settled cr σ τ org)
    (hroles : ∀ m ∈ cr.spec.members, m.role ≠ "") :
    (E.rules kind lib home).wpE (reconcileSpecMembers conn org)
      (fun org' τ' => (roster user).Manned start cr σ τ' org') (fun _ _ => True) τ := by
  unfold reconcileSpecMembers
  rw [h.copy.spec]
  by_cases hnone : cr.spec.members.isEmpty = true
  · -- the members are left as they are
    rw [if_pos hnone]
    obtain ⟨c, hnow, hrv, hc⟩ := h.stored
    refine ⟨c, hnow, hrv, hc.live, fun p => ?_⟩
    show _ ↔ if cr.spec.members.isEmpty then _ else _
    rw [if_pos hnone, Roster.members_of_since (K := roster user) aside_of_settling h]
  · rw [if_neg hnone, wpE_orFail]
    refine wp_mono (wpE_members_manned hE h hroles hnone) (fun r τ' h' => ?_)
    cases r with
    | ok org' => exact h'
    | error e => trivial

theorem wpE_reconcileOrganization_manned (hE : ServesMembers user start E)
    (h : Settled cr σ τ org) (hroles : ∀ m ∈ cr.spec.members, m.role ≠ "") :
    (E.rules kind lib home).wpE (reconcileOrganization lib org conn)
      (fun out τ' => (roster user).Manned start cr σ τ' out.1) (fun _ _ => True) τ := by
  unfold reconcileOrganization
  simp only [wpE_bind, wpE_lift, wpE_pure]
  refine wpE_mono (wpE_createOrUpdate_settled h) (fun org₁ τ₁ h₁ => ?_) (fun _ _ _ => trivial)
  refine wpE_mono (wpE_specMembers_manned hE h₁ hroles) (fun org₂ τ₂ h₂ => ?_)
    (fun _ _ _ => trivial)
  refine Pass.wp_besideApi (N := (roster user).IsAside) (fun _ => rfl) (fun info τ₃ hb => ?_)
  refine h₂.beside hb ?_ ?_
  · cases info <;> rfl
  · cases info <;> rfl

def rostered (lib : Ext) (user : String → String) : Rostered lib where
  toRoster := roster user
  controller := controller lib
  reconcile _ := rfl
  conditions _ _ := rfl
  id_setConditions _ _ := rfl
  serves := ServesMembers user
  body hE hnow hlive hroles := wpE_reconcileOrganization_manned hE
      (.decoded hnow ⟨hlive, rfl, rfl, rfl⟩ ⟨[], rfl, fun _ hs => absurd hs List.not_mem_nil⟩)
      hroles

end Organization

/-! ## Both -/

/-- The kinds that declare members. A member of an organization is removed by its user id. -/
inductive MemberKind where
  | team
  | organization (user : String → String)

def MemberKind.rostered (lib : Ext) : MemberKind → Rostered lib
  | .team => Team.rostered lib
  | .organization user => Organization.rostered lib user

/-- **Declared members are reached unless someone was there with another role.** After a successful
reconcile the members of a team in the mode `crd`, and those of an organization, are the declared
ones exactly if no one was a member with another role than declared, and, for an organization
without declared members, no one was a member at all. -/
theorem membership_converges_iff (k : MemberKind) (lib : Ext) (req : NamespacedName)
    (start : String → Pairs) (cr r : (k.rostered lib).R.CR) (σ : (k.rostered lib).R.RScene)
    (E : (k.rostered lib).R.RPass) (hnow : σ.Now cr) (hlive : cr.metadata.deleting = false)
    (happlies : (k.rostered lib).applies cr.spec)
    (hdistinct : (((k.rostered lib).declared cr.spec).map Prod.fst).Nodup)
    (hserve : (k.rostered lib).serves start E)
    (hsuccess : Pass.Success (k.rostered lib).controller (Reconciler.done lib req σ E) r) :
    (k.rostered lib).Converged start cr (Reconciler.done lib req σ E)
        ((k.rostered lib).id r.status) ↔
      (k.rostered lib).Concordant start cr σ ((k.rostered lib).id r.status) :=
  (k.rostered lib).converged_iff hnow hlive happlies hdistinct hserve hsuccess

/-! ## A member with another role -/

namespace Sample

def administered : LiteLLMTeam :=
  { team with
    spec.memberManagement := "crd"
    spec.members := [{ email := "alice", role := "admin" }] }

/-- LiteLLM carries out every request, and knows the members. -/
def manning (start : String → Pairs) : Reconciler.team.RPass where
  cluster := cluster
  fits := fits_cluster
  fault _ := none
  serve τ _ req := match req with
    | .listMembers id => .ok (show List TeamMemberInfo from
        (Team.roster.members start id τ.requests).map (fun p => { email := p.1, role := p.2 }))
    | req => (teamServed req).elim (.error (errorf "no answer")) .ok
  random _ := .ok []

theorem serves_manning (start : String → Pairs) : Team.ServesMembers start (manning start) where
  lists τ conn id := by
    refine ⟨_, rfl, fun p => ?_⟩
    rw [List.map_map, List.map_id'']
    exact fun _ => rfl
  adds _ _ _ _ _ := ⟨_, rfl⟩
  removes _ _ _ _ := ⟨_, rfl⟩

end Sample

/-- A member who is not declared is removed, and the declared one is added. -/
theorem membership_converges_other :
    ∃ r, Team.roster.Converged (fun _ => [("bob", "user")]) Sample.administered
      (Reconciler.done Sample.lib ⟨"apps", "team"⟩ (Reconciler.team.scene Sample.administered)
        (Sample.manning (fun _ => [("bob", "user")]))) r := by
  refine ⟨_, (membership_converges_iff .team Sample.lib ⟨"apps", "team"⟩ _ Sample.administered _
    (Reconciler.team.scene Sample.administered) (Sample.manning (fun _ => [("bob",
      "user")])) rfl rfl
    rfl (by decide) (Sample.serves_manning _) ⟨rfl, rfl⟩).mpr ⟨?_, ?_⟩⟩
  · intro h
    cases h
  · intro p hp q hq hkey
    obtain rfl := List.mem_singleton.mp hp
    obtain rfl := List.mem_singleton.mp hq
    exact absurd hkey (by decide)

/-- **The role of a member is not updated.** A member is there with the role `user` and is declared
as `admin`; every call succeeds. -/
theorem role_not_updated :
    ¬ ∀ (k : MemberKind) (lib : Ext) (req : NamespacedName) (start : String → Pairs)
      (cr r : (k.rostered lib).R.CR) (σ : (k.rostered lib).R.RScene) (E : (k.rostered lib).R.RPass),
      σ.Now cr → cr.metadata.deleting = false → (k.rostered lib).applies cr.spec →
      (((k.rostered lib).declared cr.spec).map Prod.fst).Nodup → (k.rostered lib).serves start E →
      Pass.Success (k.rostered lib).controller (Reconciler.done lib req σ E) r →
      (k.rostered lib).Converged start cr (Reconciler.done lib req σ E)
        ((k.rostered lib).id r.status) := by
  intro hall
  have hconverged := hall .team Sample.lib ⟨"apps", "team"⟩ (fun _ => [("alice", "user")])
    Sample.administered _ (Reconciler.team.scene Sample.administered)
    (Sample.manning (fun _ => [("alice", "user")])) rfl rfl rfl (by decide)
    (Sample.serves_manning _) ⟨rfl, rfl⟩ ("alice", "admin")
  exact absurd (hconverged.mpr (by decide)) (by decide +kernel)

end LitellmOperator
