import LitellmOperator.Pass.Kinds
import Mathlib.Data.List.Dedup

/-! # Whom a team reconcile takes for its own members

In the mixed mode a reconcile removes the members that `status.crdMembers` lists and the spec no
longer does. It then lists there whoever is in the spec: those it has just added, and those who were
in the team already. The protocol of this file follows that bookkeeping. It counts as the
operator's own the members that the status listed when the reconcile began, the members of the spec
that were in the team when it listed the team, and those it has added since. Only such members are
removed or listed in the status.
-/

set_option autoImplicit false

namespace LitellmOperator

open Effect Protocol Go Kube Ctl Scene

namespace Team

/-- Those listed as members by the operator. -/
def crdEmails (st : LiteLLMTeamStatus) : List String := st.crdMembers.map (·.email)

def specEmails (spec : LiteLLMTeamSpec) : List String := spec.members.map (·.email)

/-- The mixed mode, which is the default. -/
def Mixed (spec : LiteLLMTeamSpec) : Prop :=
  spec.memberManagement = "" ∨ spec.memberManagement = "mixed"

instance (spec : LiteLLMTeamSpec) : Decidable (Mixed spec) := inferInstanceAs (Decidable (_ ∨ _))

structure Bookkeeping where
  wanted : List String
  /-- Those counted as the operator's own. -/
  own : List String

/-- What becomes of the books with an answer of LiteLLM. -/
def Bookkeeping.next (x : Bookkeeping) :
    (req : TeamApi) → Except Error (Service.Result req) → Bookkeeping
  | .listMembers _, .ok ms => { x with
      own := x.own ++ ((show List TeamMemberInfo from ms).map (·.email)).filter (· ∈ x.wanted) }
  | .addMember _ email _, .ok _ => { x with own := email :: x.own }
  | _, _ => x

/-- Adding a member does not fail. -/
def Bookkeeping.answers : (req : TeamApi) → Except Error (Service.Result req) → Prop
  | .addMember _ _ _, .error _ => False
  | _, _ => True

def Bookkeeping.mayCall (x : Bookkeeping) : TeamApi → Prop
  | .removeMember _ email => email ∈ x.own
  | _ => True

@[reducible] def bookkeeping : Tracker LiteLLMTeamSpec LiteLLMTeamStatus TeamApi where
  Aux := Bookkeeping
  start r := ⟨specEmails r.spec, crdEmails r.status⟩
  mayStore x c st := ∀ e ∈ crdEmails st, e ∈ crdEmails c.status ∨ e ∈ x.own
  mayCall x _ req := x.mayCall req
  fits r := Mixed r.spec
  answers _ req r := Bookkeeping.answers req r
  next x req r := x.next req r
  keep _ _ _ he := .inl he

variable {lib : Ext} {cr team c : LiteLLMTeam} {conn : ResolvedInstance}
variable {x : Bookkeeping} {s : bookkeeping.State}

/-! ## Up to the members -/

/-- A request that is none of those about members. -/
def Elsewhere : TeamApi → Prop
  | .addMember _ _ _ => False
  | .removeMember _ _ => False
  | .listMembers _ => False
  | _ => True

theorem wp_elsewhere {req : TeamApi} (h : Elsewhere req) (hc : s.copy = some c)
    (hx : s.aux = some x) {Q : Except Error (Service.Result req) → bookkeeping.State → Prop}
    (hQ : ∀ r s', s'.copy = some c → s'.aux = some x → Q r s') :
    bookkeeping.protocol.wp (api conn req) Q s := by
  have hcall : x.mayCall req := by
    cases req with
    | removeMember _ _ => exact h.elim
    | _ => trivial
  have hnext : ∀ r, x.next req r = x := by
    intro r
    cases req with
    | addMember _ _ _ | listMembers _ => exact h.elim
    | _ => rfl
  refine Tracker.wp_api hc hx hcall (fun r s' _ hc' hx' => hQ r s' hc' ?_)
  rw [hx']
  exact congrArg some (hnext r)

/-- The copy and what was last decoded list the members that the reconcile began with. -/
structure Unlisted (cr team : LiteLLMTeam) (s : bookkeeping.State) : Prop where
  held : ∃ c, bookkeeping.Held team c (bookkeeping.start cr) s ∧
    c.status.crdMembers = cr.status.crdMembers
  spec : team.spec = cr.spec
  listed : team.status.crdMembers = cr.status.crdMembers

theorem Unlisted.writable (h : Unlisted cr team s) : bookkeeping.Writable team s := by
  obtain ⟨c, hc, -⟩ := h.held
  exact hc.writable

theorem mayStore_of_listed {st : LiteLLMTeamStatus} (h : st.crdMembers = cr.status.crdMembers) :
    bookkeeping.mayStore (bookkeeping.start cr) c st := by
  intro e he
  refine .inr ?_
  show e ∈ crdEmails cr.status
  unfold crdEmails at he ⊢
  rwa [← h]

theorem Unlisted.withStatus (h : Unlisted cr team s) {st : LiteLLMTeamStatus}
    (hst : st.crdMembers = team.status.crdMembers) : Unlisted cr (team.withStatus st) s := by
  obtain ⟨c, hc, hlist⟩ := h.held
  have hst' := hst.trans h.listed
  exact ⟨⟨c, hc.withStatus (mayStore_of_listed hst'), hlist⟩, h.spec, hst'⟩

theorem wp_unlisted {req : TeamApi} (hreq : Elsewhere req) (h : Unlisted cr team s)
    {Q : Except Error (Service.Result req) → bookkeeping.State → Prop}
    (hQ : ∀ r s', Unlisted cr team s' → Q r s') :
    bookkeeping.protocol.wp (api conn req) Q s := by
  obtain ⟨c, hc, hlist⟩ := h.held
  refine wp_elsewhere hreq hc.copy hc.aux (fun r s' hc' hx' => hQ r s' ?_)
  exact ⟨⟨c, ⟨hc', hx', hc.near, hc.store⟩, hlist⟩, h.spec, h.listed⟩

theorem unlisted_of_decoded {team' : LiteLLMTeam} {s' : bookkeeping.State}
    (h : bookkeeping.Held team' team' (bookkeeping.start cr) s')
    (hst : team'.status.crdMembers = cr.status.crdMembers) (hspec : team'.spec = cr.spec) :
    Unlisted cr team' s' := ⟨⟨team', h, hst⟩, hspec, hst⟩

theorem wpE_adoptExisting_books (h : Unlisted cr team s) :
    bookkeeping.protocol.wpE (adoptExistingTeam conn team)
      (Unlisted cr) (fun f s' => bookkeeping.Writable f.1 s') s := by
  unfold adoptExistingTeam
  rw [wpE_bind, wpE_lift]
  refine wp_unlisted (by trivial) h (fun r s₁ h₁ => ?_)
  cases r with
  | error e =>
    dsimp only
    split
    · exact h₁
    · exact h₁.writable
  | ok info =>
    obtain ⟨c, hc, hlist⟩ := h₁.held
    simp only [wpE_bind]
    refine Tracker.wpE_markAdopted hc (fun team₂ s₂ h₂ hst hspec => ?_)
    have hun := unlisted_of_decoded h₂ ((congrArg _ hst).trans hlist) (hspec.trans h₁.spec)
    have hset := hun.withStatus (show ({ team₂.status with litellmTeamID := team₂.spec.teamID } :
        LiteLLMTeamStatus).crdMembers = _ from rfl)
    rw [wpE_orFail]
    obtain ⟨c₂, hc₂, -⟩ := hset.held
    refine Tracker.wp_statusUpdate hc₂ (fun team₃ s₃ h₃ hst₃ hspec₃ => ?_) (fun e => hset.writable)
    exact unlisted_of_decoded h₃ ((congrArg _ hst₃).trans hset.listed) (hspec₃.trans hset.spec)

theorem wpE_adoptUnbound_books (h : Unlisted cr team s) :
    bookkeeping.protocol.wpE (adoptUnbound conn team)
      (Unlisted cr) (fun f s' => bookkeeping.Writable f.cr s') s := by
  unfold adoptUnbound
  split
  · rw [wpE_orFail]
    refine wp_mono (wpE_adoptExisting_books h) (fun r s' h' => ?_)
    cases r with
    | ok team' | error f => exact h'
  · exact h

variable {orgID : String}

theorem wpE_createTeam_books (h : Unlisted cr team s) :
    bookkeeping.protocol.wpE (createTeam lib conn orgID team)
      (Unlisted cr) (fun f s' => bookkeeping.Writable f.cr s') s := by
  unfold createTeam
  rw [wpE_bind, wpE_orFail]
  refine wp_unlisted (by trivial) h (fun r s₁ h₁ => ?_)
  rcases r with e | resp
  · exact h₁.writable
  have hset := h₁.withStatus (show ({ team.status with
      litellmTeamID := (show TeamCreateResponse from resp).teamID, synced := true } :
    LiteLLMTeamStatus).crdMembers = _ from rfl)
  obtain ⟨c, hc, -⟩ := hset.held
  refine Tracker.wpE_recordCreated hc (fun team' s' h' hst hspec => ?_)
  exact unlisted_of_decoded h' ((congrArg _ hst).trans hset.listed) (hspec.trans hset.spec)

theorem wpE_updateTeam_books (h : Unlisted cr team s) :
    bookkeeping.protocol.wpE (updateTeam lib conn orgID team)
      (Unlisted cr) (fun f s' => bookkeeping.Writable f.cr s') s := by
  unfold updateTeam
  dsimp only
  split
  · exact h
  · rw [wpE_bind, wpE_orFail]
    refine wp_unlisted (by trivial) h (fun r s₁ h₁ => ?_)
    rcases r with e | _
    · exact h₁.writable
    obtain ⟨c, hc, hlist⟩ := h₁.held
    rw [wpE_bind]
    refine Tracker.wpE_storeSyncHash hc (fun team' s' h' hst hspec => ?_)
    have hun := unlisted_of_decoded h' ((congrArg _ hst).trans hlist) (hspec.trans h₁.spec)
    have hset : Unlisted cr (team'.withStatus { team'.status with synced := true }) s' :=
      hun.withStatus rfl
    exact hset

theorem wpE_createOrUpdate_books (h : Unlisted cr team s) :
    bookkeeping.protocol.wpE (createOrUpdateTeam lib conn orgID team)
      (Unlisted cr) (fun f s' => bookkeeping.Writable f.cr s') s := by
  unfold createOrUpdateTeam
  split
  · exact wpE_createTeam_books h
  · exact wpE_updateTeam_books h

/-! ## The members -/

/-- Everyone in the spec is counted as the operator's own in the end, being in the team already or
just added. -/
theorem wp_addMissing_books (actual : List String) (ms : List TeamMember)
    (hown : ∀ m ∈ ms, actual.contains m.email = true → m.email ∈ x.own)
    (hc : s.copy = some c) (hx : s.aux = some x) :
    bookkeeping.protocol.wp (ms.forM (fun m =>
        if actual.contains m.email then pure ⟨⟩
        else do
          let _ ← api conn (TeamApi.addMember team.status.litellmTeamID m.email m.role)
          pure PUnit.unit))
      (fun _ s' => s'.copy = some c ∧ ∃ x', s'.aux = some x' ∧ (∀ e ∈ x.own, e ∈ x'.own) ∧
        ∀ m ∈ ms, m.email ∈ x'.own) s := by
  -- the induction is on the members still to be looked at; the books only grow
  induction ms generalizing s x with
  | nil => exact ⟨hc, x, hx, fun _ he => he, fun m hm => by cases hm⟩
  | cons m ms ih =>
    show bookkeeping.protocol.wp ((if _ then _ else _) >>= fun _ => ms.forM _) _ s
    rw [wp_bind]
    by_cases hin : actual.contains m.email = true
    · rw [if_pos hin, wp_pure]
      refine wp_mono (ih (fun m' hm' => hown m' (List.mem_cons_of_mem _ hm')) hc hx)
        (fun _ s' h' => ?_)
      obtain ⟨hc', x', hx', hgrow, hall⟩ := h'
      refine ⟨hc', x', hx', hgrow, fun m' hm' => ?_⟩
      rcases List.mem_cons.mp hm' with rfl | hm'
      · exact hgrow _ (hown _ List.mem_cons_self hin)
      · exact hall m' hm'
    · rw [if_neg hin, wp_bind]
      refine Tracker.wp_api hc hx (by trivial) (fun r s₁ hans hc₁ hx₁ => ?_)
      rcases r with e | _
      · exact hans.elim
      rw [wp_pure]
      have hown' : ∀ m' ∈ ms, actual.contains m'.email = true → m'.email ∈ m.email :: x.own :=
        fun m' hm' hin' => List.mem_cons_of_mem _ (hown m' (List.mem_cons_of_mem _ hm') hin')
      refine wp_mono (ih (x := ⟨x.wanted, m.email :: x.own⟩) hown' hc₁ hx₁) (fun _ s' h' => ?_)
      obtain ⟨hc', x', hx', hgrow, hall⟩ := h'
      refine ⟨hc', x', hx', fun e he => hgrow e (List.mem_cons_of_mem _ he), fun m' hm' => ?_⟩
      rcases List.mem_cons.mp hm' with rfl | hm'
      · exact hgrow _ List.mem_cons_self
      · exact hall m' hm'

theorem wp_removeMembers_books (emails desired : List String) (hown : ∀ e ∈ emails, e ∈ x.own)
    (hc : s.copy = some c) (hx : s.aux = some x) :
    bookkeeping.protocol.wp (removeMembers conn team emails desired)
      (fun _ s' => s'.copy = some c ∧ s'.aux = some x) s := by
  unfold removeMembers
  refine wp_forM (fun e he s' hs' => ?_) ⟨hc, hx⟩
  split
  · exact hs'
  · rw [wp_bind]
    refine Tracker.wp_api hs'.1 hs'.2 ?_ (fun r s'' _ hc'' hx'' => ⟨hc'', hx''⟩)
    exact hown e he

theorem wpE_listMembers_books (hc : s.copy = some c) (hx : s.aux = some x)
    {Q : List TeamMemberInfo → bookkeeping.State → Prop} {R : Error → bookkeeping.State → Prop}
    (hok : ∀ ms s', s'.copy = some c →
      s'.aux = some ⟨x.wanted, x.own ++ (ms.map (·.email)).filter (· ∈ x.wanted)⟩ → Q ms s')
    (herr : ∀ e s', s'.copy = some c → s'.aux = some x → R e s') :
    bookkeeping.protocol.wpE (listMembers conn team) Q R s := by
  unfold listMembers
  rw [wpE_orFail]
  refine Tracker.wp_api hc hx (by trivial) (fun r s' _ hc' hx' => ?_)
  cases r with
  | ok ms => exact hok ms s' hc' hx'
  | error e => exact herr _ s' hc' hx'

theorem wpE_mixed_books (h : Unlisted cr team s) :
    bookkeeping.protocol.wpE (reconcileMembersMixed conn team)
      (fun team' s' => ∃ c x, bookkeeping.Held team' c x s')
      (fun _ s' => bookkeeping.Writable team s') s := by
  obtain ⟨c, hc, -⟩ := h.held
  unfold reconcileMembersMixed
  rw [wpE_bind]
  refine wpE_listMembers_books hc.copy hc.aux (fun ms s₁ hc₁ hx₁ => ?_) (fun e s₁ hc₁ hx₁ => ?_)
  · dsimp only
    rw [wpE_bind, wpE_lift]
    unfold addMissingMembers
    refine wp_mono (wp_addMissing_books _ _ (fun m hm hin => ?_) hc₁ hx₁) (fun _ s₂ h₂ => ?_)
    · -- in the team and in the spec
      refine List.mem_append_right _ (List.mem_filter.mpr ⟨List.contains_iff_mem.mp hin, ?_⟩)
      rw [h.spec] at hm
      exact decide_eq_true (List.mem_map_of_mem hm)
    · obtain ⟨hc₂, x₂, hx₂, hgrow, hall⟩ := h₂
      rw [wpE_bind, wpE_lift]
      refine wp_mono (wp_removeMembers_books _ _ (fun e he => ?_) hc₂ hx₂) (fun _ s₃ h₃ => ?_)
      · rw [List.mem_dedup, h.listed] at he
        exact hgrow e (List.mem_append_left _ he)
      · refine ⟨c, x₂, h₃.1, h₃.2, ?_, fun e he => .inr ?_⟩
        · rw [hc.near]
          rfl
        · obtain ⟨m', hm', rfl⟩ := List.mem_map.mp he
          obtain ⟨m, hm, rfl⟩ := List.mem_map.mp hm'
          exact hall m hm
  · exact Tracker.Held.writable ⟨hc₁, hx₁, hc.near, hc.store⟩

theorem reconcileMembers_mixed (h : Mixed team.spec) :
    reconcileMembers conn team = reconcileMembersMixed conn team := by
  unfold reconcileMembers
  rcases h with h | h
  · rw [if_pos h]
    rfl
  · rw [h]
    rfl

theorem wpE_members_books (hmixed : Mixed cr.spec) (h : Unlisted cr team s) :
    bookkeeping.protocol.wpE (reconcileMembers conn team)
      (fun team' s' => ∃ c x, bookkeeping.Held team' c x s')
      (fun _ s' => bookkeeping.Writable team s') s := by
  rw [reconcileMembers_mixed (h.spec ▸ hmixed)]
  exact wpE_mixed_books h

/-! ## Logging, and the whole body -/

theorem wpE_callback_books (cb : TeamCallback) (hc : s.copy = some c) (hx : s.aux = some x) :
    bookkeeping.protocol.wpE (setCallback conn team cb)
      (fun _ s' => s'.copy = some c ∧ s'.aux = some x)
      (fun _ s' => s'.copy = some c ∧ s'.aux = some x) s := by
  unfold setCallback
  simp only [wpE_bind, wpE_orFail]
  refine Tracker.wp_isRead ?_ (fun r => ?_)
  · unfold readCallbackCredentials
    exact uses_run_bind (uses_orFail (.perform trivial)) (fun _ => .pure)
  · rcases r with e | vars
    · exact ⟨hc, hx⟩
    refine wp_elsewhere (by trivial) hc hx (fun r s' hc' hx' => ?_)
    cases r with
    | error e | ok _ => exact ⟨hc', hx'⟩

theorem wpE_logging_books (h : bookkeeping.Held team c x s) :
    bookkeeping.protocol.wpE (reconcileLogging conn team)
      (fun team' s' => bookkeeping.Held team' c x s')
      (fun _ s' => bookkeeping.Writable team s') s := by
  have hheld : ∀ s' : bookkeeping.State, s'.copy = some c → s'.aux = some x →
      bookkeeping.Held team c x s' := fun s' hc' hx' => ⟨hc', hx', h.near, h.store⟩
  unfold reconcileLogging
  split
  · have hset : bookkeeping.Held (team.withStatus { team.status with
        loggingSynced := false, loggingDisabled := false }) c x s := h.withStatus h.store
    exact hset
  · rename_i logging _
    by_cases hoff : logging.disabled = true
    · simp only [if_pos hoff, wpE_bind, wpE_orFail]
      refine wp_elsewhere (by trivial) h.copy h.aux (fun r s' hc' hx' => ?_)
      cases r with
      | error e => exact (hheld s' hc' hx').writable
      | ok _ => exact (hheld s' hc' hx').withStatus h.store
    · simp only [if_neg hoff]
      by_cases hempty : logging.callbacks.isEmpty = true
      · simp only [if_pos hempty, wpE_bind, wpE_orFail]
        refine wp_elsewhere (by trivial) h.copy h.aux (fun r s' hc' hx' => ?_)
        cases r with
        | error e => exact (hheld s' hc' hx').writable
        | ok _ => exact (hheld s' hc' hx').withStatus h.store
      · simp only [if_neg hempty, wpE_bind]
        refine wpE_mono (wpE_forM (I := fun s' => s'.copy = some c ∧ s'.aux = some x)
          (fun cb _ s' hs' => wpE_callback_books cb hs'.1 hs'.2) ⟨h.copy, h.aux⟩)
          (fun _ s' hs' => ?_) (fun _ s' hs' => (hheld s' hs'.1 hs'.2).writable)
        exact (hheld s' hs'.1 hs'.2).withStatus h.store

theorem wpE_team_books (hmixed : Mixed cr.spec) (h : Unlisted cr team s) :
    bookkeeping.protocol.wpE (reconcileTeam lib team conn)
      (fun out s' => bookkeeping.Writable out.1 s') (fun f s' => bookkeeping.Writable f.cr s')
      s := by
  unfold reconcileTeam
  rw [wpE_bind, wpE_orFail]
  refine Tracker.wp_isRead (isRead_resolveOrganizationRef _) (fun r => ?_)
  rcases r with e | orgID
  · exact h.writable
  dsimp only
  rw [wpE_bind]
  refine wpE_post (wpE_adoptUnbound_books h) (fun team₁ s₁ h₁ => ?_)
  rw [wpE_bind]
  refine wpE_post (wpE_createOrUpdate_books h₁) (fun team₂ s₂ h₂ => ?_)
  rw [wpE_bind, wpE_orFail]
  refine wp_mono (wpE_members_books hmixed h₂) (fun r s₃ h₃ => ?_)
  rcases r with e | team₃
  · exact h₃
  obtain ⟨c₃, x₃, hheld₃⟩ := h₃
  dsimp only
  rw [wpE_bind, wpE_orFail]
  refine wp_mono (wpE_logging_books hheld₃) (fun r s₄ h₄ => ?_)
  cases r with
  | error e =>
    dsimp only
    split <;> exact h₄
  | ok team₄ =>
    dsimp only
    rw [wpE_bind, wpE_lift]
    refine wp_elsewhere (by trivial) h₄.copy h₄.aux (fun info s₅ hc₅ hx₅ => ?_)
    have h₅ : bookkeeping.Held team₄ c₃ x₃ s₅ := ⟨hc₅, hx₅, h₄.near, h₄.store⟩
    cases info with
    | error e => exact h₅.writable
    | ok info => exact (h₅.withStatus h₄.store).writable

/-- **A team reconcile in the mixed mode removes only members it counts as its own.** -/
theorem follows_bookkeeping (lib : Ext) (req : NamespacedName) :
    bookkeeping.protocol.wp (reconcile lib req) (fun _ _ => True) {} := by
  refine Tracker.wp_reconcile (fun x c st cs h => h) req (fun _ _ _ _ => trivial)
    (fun cr v conn s h => wpE_team_books h.fits ⟨⟨v, h.held, ?_⟩, h.spec, ?_⟩)
  · rw [h.status]
  · rw [h.status]

end Team

end LitellmOperator
