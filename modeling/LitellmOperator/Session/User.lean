import LitellmOperator.Controller.User
import LitellmOperator.Session.Reconcile

/-! # The user controller keeps to the session protocol

The digest of the initial password goes out in a merge patch, which is not checked against a
resource version: from then on the copy is whatever is stored. Only a read of the user and the
final report follow, and those ask for less than `Live`; `Loose` is what they need.
-/

set_option autoImplicit false

namespace LitellmOperator

open Effect Protocol Go Kube Ctl Kind

namespace User

def kind : Kind LiteLLMUserSpec LiteLLMUserStatus UserApi where
  kind := kindUser
  instanceRef := (·.instanceRef)
  bound v := idOf v.status.litellmUserID
  adopted v := isAdopted v.metadata
  byName := false
  replaces := false
  creates
    | .create _ => true
    | _ => false
  names
    | .create req => idOf req.userID
    | .get userID => some userID
    | _ => none
  takes
    | .create _, r => idOf (show UserCreateResponse from r).userID
    | _, _ => none
  deletes
    | .delete userID => some userID
    | _ => none
  finds
    | .get userID => some userID
    | _ => none
  hinders _ := failedWrite
  merge := LiteLLMUserStatus.mergeFrom
  bound_congr := by
    intro v v' _ hst _
    rw [hst]
  adopted_congr := by
    intro v v' hann
    unfold isAdopted
    rw [hann]
  takes_deletes req _ _ h := by
    cases req with
    | delete _ => cases h
    | _ => rfl

theorem annotates_syncHash : kind.Annotates annotationSyncHash where
  bound _ _ := rfl
  adopted v val := isAdopted_annotate_ne v val (by decide)

theorem fits (lib : Ext) : (controller lib).Fits kind where
  cleans :=
    { instanceRef := rfl
      target := fun _ _ h => bound_of_target h
      deletes := fun _ => rfl
      creates := fun _ => rfl
      takes := fun _ _ => rfl }

variable {lib : Ext} {conn : ResolvedInstance} {user : LiteLLMUser}
variable {s : Session LiteLLMUserSpec LiteLLMUserStatus}

/-! ## Creating and adopting -/

theorem uses_resolveTeamRef (ns : String) (t : UserTeamMembership) :
    (resolveTeamRef ns t).run.Uses Op.PlainRead := by
  unfold resolveTeamRef
  split
  · exact .pure
  · refine uses_run_bind (uses_orFail (uses_read trivial)) (fun team => ?_)
    exact uses_run_bind (uses_failIf _ _) (fun _ => .pure)

theorem uses_resolveTeamRefs (ns : String) (ts : List UserTeamMembership) :
    (resolveTeamRefs ns ts).run.Uses Op.PlainRead := by
  induction ts with
  | nil => exact .pure
  | cons t ts ih =>
    refine uses_run_bind (uses_resolveTeamRef ns t) (fun teamID => ?_)
    exact uses_run_bind ih (fun teams => .pure)

variable {req : UserCreateRequest}

theorem wpE_adoptExistingUser {createErr : Error} (h : Live kind lib conn user s) :
    (kind.session lib).wpE (adoptExistingUser conn user req createErr)
      (fun _ s' => Live kind lib conn user s' ∧ user.spec.userID ≠ "" ∧ user.spec.userID ∈ s'.seen)
      (fun _ s' => Reportable kind user s') s := by
  unfold adoptExistingUser updateCall
  simp only [wpE_bind, wpE_lift]
  refine wpE_failIf (fun _ => h.reportable) (fun hc => ?_)
  have hid : user.spec.userID ≠ "" := by
    simp only [Bool.not_eq_false', Bool.and_eq_true, decide_eq_true_eq] at hc
    exact hc.2
  refine wp_find ⟨rfl, rfl, fun _ => rfl⟩ rfl h (fun _ s₁ h₁ hx => ?_) (fun e s₁ h₁ => ?_)
  · simp only [wpE_orFail]
    refine wp_apiSeen ⟨rfl, rfl, fun _ => rfl⟩ h₁ hx (fun r s₂ h₂ hx₂ => ?_)
    cases r with
    | error e => exact h₂.reportable
    | ok _ => exact ⟨h₂, hid, hx₂⟩
  · simp only
    split <;> exact h₁.reportable

theorem wpE_createOrAdopt (h : Live kind lib conn user s) (hid : user.status.litellmUserID = "") :
    (kind.session lib).wpE (createOrAdopt conn req user)
      (fun b s' => ∀ st : LiteLLMUserStatus, st.litellmUserID = b.2 →
        Writable kind lib conn (b.1.withStatus st) s') (Stops kind) s := by
  have hn : kind.bound user = none := idOf_eq_none.mpr hid
  unfold createOrAdopt
  simp only [wpE_bind, wpE_lift]
  refine wp_createUnbound rfl h hn (fun resp s' hw st hst => hw st (congrArg idOf hst))
    (fun e s₁ h₁ => ?_)
  simp only [wpE_bind, wpE_orFail, wpE_pure]
  refine wp_mono (wpE_adoptExistingUser h₁) (fun r s₂ h₂ => ?_)
  rcases r with e | _
  · exact h₂
  obtain ⟨h₂, hspec, hx⟩ := h₂
  refine wp_mono (wpE_markAdopted
    (Q := fun user' s' => ∀ st : LiteLLMUserStatus, st.litellmUserID = user'.spec.userID →
      Writable kind lib conn (user'.withStatus st) s')
    (E := fun f s' => Reportable kind f.1 s')
    (fun _ _ => rfl) isAdopted_annotate_self h₂ hn hx
    (fun user' s₃ h₃ hn' ha hx' heq st hst => ?_) (fun f s₃ h₃ => h₃)) (fun r s₃ h₃ => ?_)
  · refine h₃.adopts hn' ha hx' ?_
    show idOf st.litellmUserID = some user.spec.userID
    rw [hst, heq]
    exact idOf_of_ne hspec
  · cases r with
    | error f | ok user' => exact h₃

theorem wpE_createUser (h : Live kind lib conn user s) (hid : user.status.litellmUserID = "") :
    (kind.session lib).wpE (createUser lib conn req user) (Live kind lib conn) (Stops kind) s := by
  unfold createUser
  rw [wpE_bind]
  refine wpE_post (wpE_createOrAdopt h hid) (fun b s' hw => ?_)
  exact wpE_recordCreated annotates_syncHash (hw _ rfl) (fun _ _ h' _ _ => h')

theorem wpE_createOrUpdateUser (h : Live kind lib conn user s) :
    (kind.session lib).wpE (createOrUpdateUser lib conn req user)
      (Live kind lib conn) (Stops kind) s := by
  unfold createOrUpdateUser
  split
  · rename_i hid
    exact wpE_createUser h hid
  · unfold updateUser updateCall
    dsimp only
    split
    · exact h
    · simp only [wpE_bind, wpE_orFail]
      refine wp_apiOr ⟨rfl, rfl, fun _ => rfl⟩ h (fun _ s' h' => ?_) (fun _ _ hf => hf)
      exact wpE_storeSyncHash annotates_syncHash h' (fun _ _ h'' _ _ => h''.withStatus rfl)

/-! ## The initial password -/

/-- The instance is resolved for some copy, nothing is pending, and `user` is the copy held now up
to the status. -/
def Loose (lib : Ext) (conn : ResolvedInstance) (user : LiteLLMUser)
    (s : Session LiteLLMUserSpec LiteLLMUserStatus) : Prop :=
  ∃ subj c, kind.Connected lib s conn subj ∧ subj.metadata.deleting = false ∧
    s.copy = some c ∧ s.fresh = none ∧ user.rv = c.rv ∧ kind.bound user = kind.bound c

theorem loose_of_live (h : Live kind lib conn user s) : Loose lib conn user s := by
  obtain ⟨subj, c, ho, hf, hb⟩ := h
  refine ⟨subj, c, ho.connected, ho.live, ho.copy, hf, ?_, hb⟩
  rw [ho.near]
  rfl

theorem Loose.reportable (h : Loose lib conn user s) : Reportable kind user s := by
  obtain ⟨subj, c, -, -, hc, hf, hrv, hb⟩ := h
  exact ⟨c, hc, hrv, .inr ⟨.inl hf, .inl hb⟩⟩

theorem Loose.withStatus (h : Loose lib conn user s) {st : LiteLLMUserStatus}
    (hst : st.litellmUserID = user.status.litellmUserID) :
    Loose lib conn (user.withStatus st) s := by
  obtain ⟨subj, c, hconn, hl, hc, hf, hrv, hb⟩ := h
  exact ⟨subj, c, hconn, hl, hc, hf, hrv, (congrArg idOf hst).trans hb⟩

theorem Loose.same {s' : Session LiteLLMUserSpec LiteLLMUserStatus} (h : Loose lib conn user s)
    (hs : Same s s') : Loose lib conn user s' := by
  obtain ⟨subj, c, hconn, hl, hc, hf, hrv, hb⟩ := h
  exact ⟨subj, c, hconn.same hs, hl, hs.copy.trans hc, hs.fresh.trans hf, hrv, hb⟩

theorem wp_getLoose {userID : String} (h : Loose lib conn user s)
    {Q : Except Error UserInfo → Session LiteLLMUserSpec LiteLLMUserStatus → Prop}
    (hQ : ∀ r s', Loose lib conn user s' → Q r s') :
    (kind.session lib).wp (api conn (UserApi.get userID)) Q s := by
  have hn : kind.Neutral (UserApi.get userID) := ⟨rfl, rfl, fun _ => rfl⟩
  obtain ⟨subj, c, hconn, hl, hc, -⟩ := id h
  exact ⟨mayCall_neutral hn hconn hl hc, fun r _ => hQ r _ (h.same (next_neutral_same _ hn r))⟩

theorem wp_recordDigest {digest : String} (h : Live kind lib conn user s) :
    (kind.session lib).wp (recordDigest user digest) (Loose lib conn)
      s := by
  obtain ⟨subj, c, ho, hf, hb⟩ := id h
  unfold recordDigest
  rw [wp_bind]
  refine ⟨⟨hf, c, ho.copy, fun v => ?_⟩, fun r _ => ?_⟩
  · -- the patch does not mention the id
    show idOf (if user.status.litellmUserID = user.status.litellmUserID
      then v.status.litellmUserID else user.status.litellmUserID) = idOf v.status.litellmUserID
    rw [if_pos rfl]
  · cases r with
    | error e =>
      have h' : Live kind lib conn user (kind.next s (.statusPatch user (setPasswordCondition
            { user with status.initialPasswordDigest := digest } .true "Applied"
            "Initial password applied")) (.error e)) := h.same ⟨rfl, rfl, rfl, rfl, rfl⟩
      exact loose_of_live (h'.withStatus rfl)
    | ok stored =>
      refine ⟨subj, stored, ?_, ho.live, rfl, fresh_wrote (.inl hf), rfl, rfl⟩
      exact ⟨ho.connected.inst, ho.connected.key, ho.connected.admitted⟩

theorem wp_applyPassword {password : String} (h : Live kind lib conn user s) :
    (kind.session lib).wp (applyPassword lib conn user password)
      (fun r s' => Loose lib conn r.1 s') s := by
  unfold applyPassword setPasswordCall
  simp only [wp_bind, wp_pure]
  refine wp_api ⟨rfl, rfl, fun _ => rfl⟩ h (fun r s₁ h₁ => ?_)
  cases r with
  | error e =>
    simp only [Except.mapError]
    split <;> exact loose_of_live (h₁.withStatus rfl)
  | ok _ =>
    simp only [Except.mapError, wp_bind]
    refine wp_random h₁ (fun r s₂ h₂ => ?_)
    cases r with
    | error e => exact loose_of_live (h₂.withStatus rfl)
    | ok salt =>
      simp only [wp_bind, wp_pure]
      exact wp_recordDigest h₂

theorem wp_reconcileInitialPassword (h : Live kind lib conn user s) :
    (kind.session lib).wp (reconcileInitialPassword lib conn user)
      (fun r s' => Loose lib conn r.1 s') s := by
  unfold reconcileInitialPassword
  split
  · exact loose_of_live (h.withStatus rfl)
  · rw [wp_bind]
    refine wp_read (r := .getSecret _) trivial h (fun r s₁ h₁ => ?_)
    cases r with
    | error e =>
      simp only
      split <;> exact loose_of_live (h₁.withStatus rfl)
    | ok secret =>
      simp only
      split
      · exact loose_of_live (h₁.withStatus rfl)
      · split
        · exact loose_of_live (h₁.withStatus rfl)
        · exact wp_applyPassword h₁

/-! ## The controller -/

theorem wpE_reconcileUser (h : Live kind lib conn user s) :
    (kind.session lib).wpE (reconcileUser lib user conn) (fun r s' => Reportable kind r.1 s')
      (Stops kind) s := by
  unfold reconcileUser
  simp only [wpE_bind, wpE_orFail, wpE_lift, wpE_pure]
  refine wp_plain (uses_resolveTeamRefs _ _) (fun r s₁ hs₁ => ?_)
  have h₁ := h.same hs₁
  rcases r with e | teams
  · exact h₁.reportable
  refine wpE_post (wpE_createOrUpdateUser h₁) (fun user₂ s₂ h₂ => ?_)
  refine wp_mono (wp_reconcileInitialPassword h₂) (fun applied s₃ h₃ => ?_)
  refine wp_getLoose h₃ (fun info s₄ h₄ => ?_)
  cases info with
  | error e => exact h₄.reportable
  | ok info => exact (h₄.withStatus rfl).reportable

/-- **The user controller keeps to the session protocol.** -/
theorem follows (lib : Ext) (req : NamespacedName) :
    (kind.session lib).wp (reconcile lib req) (fun _ s => Final s) {} :=
  (controller lib).follows (fits lib) (fun _ _ _ h => wpE_reconcileUser h) req

end User

end LitellmOperator
