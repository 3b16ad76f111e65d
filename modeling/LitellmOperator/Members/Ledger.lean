import LitellmOperator.Members.Protocol

/-! # Members the operator has added are not forgotten

In the mixed mode `status.crdMembers` is the operator's only record of whom it has added: a member
that the spec no longer lists is removed if it is recorded there. A reconcile ends by recording the
members of the spec, also if it has failed to remove one of the others. Such a member is then
forgotten and stays in the team (`failed_removal_forgotten`). As long as no removal of such a member
fails, no one is forgotten (`added_members_remembered`).
-/

set_option autoImplicit false

namespace LitellmOperator

open Effect Protocol Go Kube Ctl Scene

namespace Team

/-! ## Whom the operator has added -/

/-- The emails that were added and have not been removed since, by the requests carried out, newest
first. -/
def ledger : List (Served TeamApi) → List String
  | [] => []
  | ⟨_, .addMember _ email _, _⟩ :: log => email :: ledger log
  | ⟨_, .removeMember _ email, _⟩ :: log => (ledger log).filter (· ≠ email)
  | _ :: log => ledger log

def Unledgered (req : TeamApi) : Prop := ∀ key a log, ledger (⟨key, req, a⟩ :: log) = ledger log

theorem ledger_append {l log : List (Served TeamApi)} (h : ∀ s ∈ l, Unledgered s.req) :
    ledger (l ++ log) = ledger log := by
  induction l with
  | nil => rfl
  | cons s l ih =>
    obtain ⟨hs, hl⟩ := List.forall_mem_cons.mp h
    obtain ⟨key, req, a⟩ := s
    exact (hs key a (l ++ log)).trans (ih hl)

theorem unledgered_of_settling (req : TeamApi) (h : Settling req) : Unledgered req := by
  intro key a log
  cases req <;> first | rfl | exact h.elim

theorem ledger_of_beside {τ τ' : TeamScene} (h : Beside Unledgered τ τ') :
    ledger τ'.log = ledger τ.log := by
  obtain ⟨l, hl, hN⟩ := h.log
  rw [hl]
  exact ledger_append hN

/-- Whoever was added and is no longer in the spec is recorded in the status. -/
def Remembers (σ : TeamScene) : Prop :=
  ∀ v, σ.Now v → ∀ e ∈ ledger σ.log, e ∉ specEmails v.spec → e ∈ crdEmails v.status

/-! ## The runs -/

/-- Edits that stay in the mixed mode, and reconciles whose writes to the resource go through. -/
def Persisting : Reconciler.team.Turn → Prop
  | .env (.edit spec) => Mixed spec
  | .env _ => False
  | .pass E => E.Calm

/-- No removal fails of a member that the operator has added. -/
def Removes : Reconciler.team.Turn → Prop
  | .pass E => ∀ τ conn id email e, E.serve τ conn (.removeMember id email) = .error e →
      email ∉ ledger τ.log
  | .env _ => True

/-- Whoever was added is recorded in the status. -/
structure Recorded (σ : TeamScene) (v : LiteLLMTeam) : Prop where
  now : σ.Now v
  live : v.metadata.deleting = false
  mixed : Mixed v.spec
  listed : ∀ e ∈ ledger σ.log, e ∈ crdEmails v.status

variable {lib : Ext} {home : String} {conn : ResolvedInstance} {cr team : LiteLLMTeam}
variable {E : TeamPass} {σ τ : TeamScene}

/-- The copy may be reported: it records whoever was added. -/
structure Reports (cr : LiteLLMTeam) (τ : TeamScene) (team : LiteLLMTeam) : Prop where
  stored : ∃ c, τ.Now c ∧ team.rv = c.rv ∧ c.metadata.deleting = false ∧ c.spec = cr.spec
  listed : ∀ e ∈ ledger τ.log, e ∈ crdEmails team.status

theorem Reports.beside {τ' : TeamScene} (h : Reports cr τ team) (hb : Beside Unledgered τ τ') :
    Reports cr τ' team := by
  obtain ⟨c, hnow, hc⟩ := h.stored
  refine ⟨⟨c, hb.now hnow, hc⟩, ?_⟩
  rw [ledger_of_beside hb]
  exact h.listed

theorem Reports.change {team' : LiteLLMTeam} (h : Reports cr τ team) (hrv : team'.rv = team.rv)
    (hst : team'.status.crdMembers = team.status.crdMembers) : Reports cr τ team' := by
  obtain ⟨c, hnow, hc, hrest⟩ := h.stored
  refine ⟨⟨c, hnow, hrv.trans hc, hrest⟩, ?_⟩
  unfold crdEmails
  rw [hst]
  exact h.listed

/-! ## One reconcile -/

theorem reports_of_settled (h : Settled cr σ τ team)
    (hlist : ∀ e ∈ ledger σ.log, e ∈ crdEmails cr.status) : Reports cr τ team := by
  obtain ⟨c, hnow, hrv, hc⟩ := h.stored
  refine ⟨⟨c, hnow, hrv, hc.live, hc.spec⟩, ?_⟩
  obtain ⟨l, hl, hN⟩ := h.log
  rw [hl, ledger_append (fun s hs => unledgered_of_settling _ (hN s hs))]
  unfold crdEmails
  rw [h.crdMembers]
  exact hlist

theorem wp_addMissing_ledger (actual : List String) (ms : List TeamMember) :
    (E.rules kind lib home).wp (ms.forM (fun m =>
        if actual.contains m.email then pure ⟨⟩
        else do
          let _ ← api conn (TeamApi.addMember team.status.litellmTeamID m.email m.role)
          pure PUnit.unit))
      (fun _ τ' => τ'.world.store = τ.world.store ∧
        ∀ e ∈ ledger τ'.log, e ∈ ledger τ.log ∨ e ∈ ms.map (·.email)) τ := by
  -- a loop whose body adds at most the member it looks at
  refine wp_forM (I := fun τ' : TeamScene => τ'.world.store = τ.world.store ∧
    ∀ e ∈ ledger τ'.log, e ∈ ledger τ.log ∨ e ∈ ms.map (·.email))
    (fun m hm τ₁ h₁ => ?_) ⟨rfl, fun e he => .inl he⟩
  split
  · exact h₁
  · rw [wp_bind]
    refine Pass.wp_api (fun a τ₂ _ hc => ?_) (fun e τ₂ _ hq => ?_)
    · refine ⟨hc.store.trans h₁.1, fun e he => ?_⟩
      rw [hc.log] at he
      rcases List.mem_cons.mp he with rfl | he
      · exact .inr (List.mem_map_of_mem hm)
      · exact h₁.2 e he
    · refine ⟨hq.store.trans h₁.1, fun e he => ?_⟩
      rw [hq.log] at he
      exact h₁.2 e he

theorem wp_removeMembers_ledger (hE : Removes (.pass E)) (emails desired : List String) :
    (E.rules kind lib home).wp (removeMembers conn team emails desired)
      (fun _ τ' => τ'.world.store = τ.world.store ∧ ∀ e ∈ ledger τ'.log,
        e ∈ ledger τ.log ∧ (e ∈ emails → e ∈ desired)) τ := by
  unfold removeMembers
  -- the induction is on the emails still to be looked at; the ledger only shrinks
  induction emails generalizing τ with
  | nil => exact ⟨rfl, fun e he => ⟨he, fun h => by cases h⟩⟩
  | cons email emails ih =>
    show (E.rules kind lib home).wp ((if _ then _ else _) >>= fun _ => emails.forM _) _ τ
    rw [wp_bind]
    by_cases hin : desired.contains email = true
    · rw [if_pos hin, wp_pure]
      refine wp_mono ih (fun _ τ' h' => ⟨h'.1, fun e he => ⟨(h'.2 e he).1, fun hmem => ?_⟩⟩)
      rcases List.mem_cons.mp hmem with rfl | hmem
      · exact List.contains_iff_mem.mp hin
      · exact (h'.2 e he).2 hmem
    · rw [if_neg hin, wp_bind]
      -- removed, or not one of the operator's own
      have hgone : ∀ τ₁ : TeamScene, τ₁.world.store = τ.world.store →
          (∀ e ∈ ledger τ₁.log, e ∈ ledger τ.log ∧ e ≠ email) →
          (E.rules kind lib home).wp (emails.forM (fun email =>
            if desired.contains email then pure ⟨⟩
            else do
              let _ ← api conn (TeamApi.removeMember team.status.litellmTeamID email)
              pure PUnit.unit))
            (fun _ τ' => τ'.world.store = τ.world.store ∧ ∀ e ∈ ledger τ'.log,
              e ∈ ledger τ.log ∧ (e ∈ email :: emails → e ∈ desired)) τ₁ := by
        intro τ₁ hstore hledger
        refine wp_mono ih (fun _ τ' h' => ⟨h'.1.trans hstore, fun e he => ?_⟩)
        obtain ⟨he₁, hdesired⟩ := h'.2 e he
        refine ⟨(hledger e he₁).1, fun hmem => ?_⟩
        rcases List.mem_cons.mp hmem with rfl | hmem
        · exact absurd rfl (hledger _ he₁).2
        · exact hdesired hmem
      refine Pass.wp_api (fun a τ₁ _ hc => ?_) (fun err τ₁ herr hq => ?_)
      · refine hgone τ₁ hc.store (fun e he => ?_)
        rw [hc.log] at he
        obtain ⟨he, hne⟩ := List.mem_filter.mp he
        exact ⟨he, of_decide_eq_true hne⟩
      · refine hgone τ₁ hq.store (fun e he => ?_)
        rw [hq.log] at he
        refine ⟨he, ?_⟩
        rintro rfl
        exact hE τ conn _ _ err herr he

/-- After the members were dealt with, those of the spec are recorded and no other member that the
operator has added is left. -/
theorem wpE_mixed_ledger (hE : Removes (.pass E)) (h : Reports cr τ team) :
    (E.rules kind lib home).wpE (reconcileMembersMixed conn team)
      (fun team' τ' => Reports cr τ' team') (fun _ τ' => Reports cr τ' team) τ := by
  obtain ⟨c, hnow, hc⟩ := h.stored
  unfold reconcileMembersMixed listMembers
  rw [wpE_bind, wpE_orFail]
  refine Pass.wp_besideApi (N := Unledgered) (fun _ _ _ => rfl) (fun r τ₁ hb₁ => ?_)
  have h₁ := h.beside hb₁
  rcases r with e | ms
  · exact h₁
  simp only [wpE_bind, wpE_lift]
  unfold addMissingMembers
  refine wp_mono (wp_addMissing_ledger _ _) (fun _ τ₂ h₂ => ?_)
  refine wp_mono (wp_removeMembers_ledger hE _ _) (fun _ τ₃ h₃ => ?_)
  have hstore : τ₃.world.store = τ.world.store := (h₃.1.trans h₂.1).trans hb₁.store
  refine ⟨⟨c, ?_, hc⟩, fun e he => ?_⟩
  · unfold Scene.Now
    rw [hstore]
    exact hnow
  · -- whoever is left was in the spec, or was recorded and is in the spec
    have hwanted : e ∈ team.spec.members.map (·.email) := by
      obtain ⟨he₂, hkept⟩ := h₃.2 e he
      rcases h₂.2 e he₂ with he₁ | hin
      · exact hkept (List.mem_dedup.mpr (h₁.listed e he₁))
      · exact hin
    obtain ⟨m, hm, rfl⟩ := List.mem_map.mp hwanted
    exact List.mem_map.mpr ⟨_, List.mem_map_of_mem hm, rfl⟩

theorem wpE_members_ledger (hE : Removes (.pass E)) (hmixed : Mixed cr.spec)
    (h : Reports cr τ team) (hspec : team.spec = cr.spec) :
    (E.rules kind lib home).wpE (reconcileMembers conn team)
      (fun team' τ' => Reports cr τ' team') (fun _ τ' => Reports cr τ' team) τ := by
  rw [reconcileMembers_mixed (hspec ▸ hmixed)]
  exact wpE_mixed_ledger hE h

theorem wpE_finishTeam_ledger (hE : Removes (.pass E)) (hmixed : Mixed cr.spec)
    (h : Reports cr τ team) (hspec : team.spec = cr.spec) :
    (E.rules kind lib home).wpE (finishTeam conn team) (fun out τ' => Reports cr τ' out.1)
      (fun f τ' => Reports cr τ' f.cr) τ := by
  unfold finishTeam
  rw [wpE_bind, wpE_orFail]
  refine wp_mono (wpE_members_ledger hE hmixed h hspec) (fun r τ₁ h₁ => ?_)
  rcases r with e | team₁
  · exact h₁
  dsimp only at h₁ ⊢
  rw [wpE_bind, wpE_orFail]
  refine wp_mono (wpE_reconcileLogging_beside (N := Unledgered)
    (fun _ _ _ _ _ => rfl) (fun _ _ _ _ => rfl)) (fun r τ₂ h₂ => ?_)
  cases r with
  | error e =>
    dsimp only
    split <;> exact h₁.beside h₂
  | ok team₂ =>
    obtain ⟨⟨synced, disabled, rfl⟩, hb₂⟩ := h₂
    dsimp only
    rw [wpE_bind, wpE_lift]
    refine Pass.wp_besideApi (N := Unledgered) (fun _ _ _ => rfl) (fun info τ₃ hb₃ => ?_)
    refine ((h₁.beside hb₂).beside hb₃).change ?_ ?_
    · cases info <;> rfl
    · cases info <;> rfl

theorem recorded_of_report {c r : LiteLLMTeam} {σ' : TeamScene} {status : ConditionStatus}
    {reason message : String} {observed : Bool}
    (hst : Stored τ (Pass.reportedAs (controller lib) c team status reason message observed) r σ')
    (hlive : c.metadata.deleting = false) (hmixed : Mixed c.spec)
    (hlist : ∀ e ∈ ledger τ.log, e ∈ crdEmails team.status) : Recorded σ' r := by
  obtain ⟨rv, gen, rfl⟩ := hst.stamped
  refine ⟨hst.now, hlive, hmixed, ?_⟩
  rw [hst.log]
  exact hlist

/-- **One reconcile.** -/
theorem recorded_of_pass {req : NamespacedName} (hE : Removes (.pass E)) (hcalm : E.Calm)
    (h : Recorded σ cr) :
    ∃ v, Recorded (E.run kind lib home (reconcile lib req) σ).2 v := by
  have hnofault : ∀ {P : Prop} {τ : TeamScene} {e : Error}, E.fault τ = some e → P := by
    intro P τ e he
    rw [hcalm τ] at he
    cases he
  refine Pass.wp_run (Q := fun _ σ' => ∃ v, Recorded σ' v) |>.mp ?_
  refine Pass.wp_reconcile h.now h.live (fun _ _ _ _ _ _ hfault _ => ?_)
    (fun e v reason message observed r σ₁ σ' _ hv _ hnow₁ hrest hst _ => ?_)
    (fun conn v τ _ hv _ hnow hrest => ?_)
  · obtain ⟨_, _, he⟩ := hfault
    exact hnofault he
  · -- the instance does not resolve: the status is as it was, but for the condition
    refine ⟨r, recorded_of_report hst (hv.deleting.trans h.live) ?_ ?_⟩
    · rw [hv.spec]
      exact h.mixed
    · rw [hrest.log, hv.status]
      exact h.listed
  · have hlist : ∀ e ∈ ledger τ.log, e ∈ crdEmails v.status := by
      rw [hrest.log, hv.status]
      exact h.listed
    have hmixed : Mixed v.spec := by
      rw [hv.spec]
      exact h.mixed
    have hbody : (E.rules kind lib home).wpE (reconcileTeam lib v conn)
        (fun out τ' => Reports v τ' out.1) (fun f τ' => Reports v τ' f.cr) τ :=
      wpE_reconcileTeam_now hnow (hv.deleting.trans h.live)
        (fun f τ' hf => reports_of_settled hf hlist)
        (fun w τ' hw _ => wpE_finishTeam_ledger hE hmixed (reports_of_settled hw hlist) hw.copy.spec)
    -- whatever the body comes to is reported
    refine wpE_mono hbody (fun out τ' hout => ?_) (fun f τ' hf => ?_)
    · obtain ⟨c, hnow', hrv, hlive', hspec⟩ := hout.stored
      refine Pass.wp_report_ok hnow' hrv hlive' (fun r σ' hst _ => ⟨r, ?_⟩)
        (fun e σ' he _ _ => hnofault he)
      exact recorded_of_report hst hlive' (by rw [hspec]; exact hmixed) hout.listed
    · obtain ⟨c, hnow', hrv, hlive', hspec⟩ := hf.stored
      refine Pass.wp_report_error hnow' hrv hlive' (fun _ _ _ _ r σ' hst _ => ⟨r, ?_⟩)
        (fun _ e σ' he _ _ => hnofault he)
      exact recorded_of_report hst hlive' (by rw [hspec]; exact hmixed) hf.listed

/-! ## Runs -/

/-- **One turn.** -/
theorem recorded_of_turn {req : NamespacedName} {σ' : TeamScene} {t : Reconciler.team.Turn}
    (h : ∃ v, Recorded σ v) (hpersist : Persisting t) (hremove : Removes t)
    (hx : Reconciler.take lib req σ t = some σ') : ∃ v, Recorded σ' v := by
  obtain ⟨v, hv⟩ := h
  cases t with
  | pass E =>
    cases hx
    exact recorded_of_pass hremove hpersist hv
  | env e =>
    cases e with
    | edit spec =>
      obtain ⟨⟨rv, gen, hnow⟩, htrace⟩ := Reconciler.now_of_edit hv.now hv.live hx
      refine ⟨_, hnow, hv.live, hpersist, ?_⟩
      unfold Scene.log
      rw [htrace]
      exact hv.listed
    | _ => exact hpersist.elim

/-- **Members that the operator has added are remembered.** In every run of edits and reconciles in
which no removal fails of a member that the operator has added, such a member is recorded in the
status as long as it is not removed. -/
theorem added_members_remembered (lib : Ext) (req : NamespacedName) (cr : LiteLLMTeam)
    (hlive : cr.metadata.deleting = false) (hmixed : Mixed cr.spec) (σ : TeamScene)
    (hrun : Reconciler.Passes lib req (fun _ t => Persisting t ∧ Removes t)
      (Reconciler.team.scene cr) σ) : Remembers σ := by
  have hstart : Recorded (Reconciler.team.scene cr) cr :=
    ⟨rfl, hlive, hmixed, fun e he => by cases he⟩
  obtain ⟨v, hv⟩ := hrun.invariant (I := fun τ => ∃ v, Recorded τ v) ⟨cr, hstart⟩
    (fun τ τ' t hτ ht hx => recorded_of_turn hτ ht.1 ht.2 hx)
  intro v' hnow e he _
  obtain rfl : v = v' := Option.some.inj (hv.now.symm.trans hnow)
  exact hv.listed e he

end Team

/-! ## A member that cannot be removed -/

namespace Sample

def staffed : LiteLLMTeam := { team with spec.members := [{ email := "alice", role := "user" }] }

def unstaffed : LiteLLMTeamSpec := { staffed.spec with members := [] }

/-- Everything goes through; the team appears to have no members. -/
def staffing : Reconciler.team.RPass := pass (fun _ => none) teamServed

/-- Everything but the removal of members goes through. -/
def clinging : Reconciler.team.RPass := pass (fun _ => none) (fun req => match req with
    | .removeMember _ _ => none
    | req => teamServed req)

/-- The team after its first reconcile. -/
def staffedScene : Reconciler.team.RScene :=
  Reconciler.done lib ⟨"apps", "team"⟩ (Reconciler.team.scene staffed) staffing

end Sample

namespace Team

/-- A member is added, then dropped from the spec, and removed. -/
theorem added_members_remembered_removed :
    ∃ σ, Reconciler.take Sample.lib ⟨"apps", "team"⟩ Sample.staffedScene
        (.env (.edit Sample.unstaffed)) = some σ ∧ ledger σ.log = ["alice"] ∧ Remembers σ ∧
      Remembers (Reconciler.done Sample.lib ⟨"apps", "team"⟩ σ Sample.staffing) := by
  have hserve : Removes (.pass Sample.staffing) := by
    intro τ conn id email e he
    cases he
  obtain ⟨σ, hσ⟩ : ∃ σ, Reconciler.take Sample.lib ⟨"apps", "team"⟩ Sample.staffedScene
      (.env (.edit Sample.unstaffed)) = some σ := ⟨_, rfl⟩
  have hremembers := fun σ => added_members_remembered Sample.lib ⟨"apps", "team"⟩ Sample.staffed rfl
    (.inl rfl) σ
  have hdropped : Reconciler.Passes Sample.lib ⟨"apps", "team"⟩
      (fun _ t => Persisting t ∧ Removes t) (Reconciler.team.scene Sample.staffed) σ :=
    .turn (t := .env (.edit Sample.unstaffed))
      (.turn (t := .pass Sample.staffing) (.refl _) ⟨fun _ => rfl, hserve⟩ rfl)
      ⟨.inl rfl, trivial⟩ hσ
  refine ⟨σ, hσ, ?_, hremembers σ hdropped, hremembers _ ?_⟩
  · cases hσ
    rfl
  · exact .turn (t := .pass Sample.staffing) hdropped ⟨fun _ => rfl, hserve⟩ rfl

/-- **A member whose removal fails is forgotten.** The reconcile returns no error, and all writes to
the resource go through. -/
theorem failed_removal_forgotten :
    ¬ ∀ (lib : Ext) (req : NamespacedName) (cr : LiteLLMTeam), cr.metadata.deleting = false →
      Mixed cr.spec → ∀ (σ : TeamScene) (E : Reconciler.team.RPass),
      Reconciler.Passes lib req (fun _ t => Persisting t) (Reconciler.team.scene cr) σ →
      Persisting (.pass E) → (E.run kind lib req.ns (reconcile lib req) σ).1.2 = none →
      Remembers (Reconciler.done lib req σ E) := by
  intro hall
  have hremembers := hall Sample.lib ⟨"apps", "team"⟩ Sample.staffed rfl (.inl rfl) _
    Sample.clinging
    (.turn (t := .env (.edit Sample.unstaffed))
      (.turn (t := .pass Sample.staffing) (.refl _) (fun _ => rfl) rfl) (.inl rfl) rfl)
    (fun _ => rfl) rfl
  have hlisted := hremembers _ rfl "alice" (by decide +kernel) (by decide +kernel)
  exact absurd hlisted (by decide +kernel)

end Team

end LitellmOperator
