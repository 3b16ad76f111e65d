import LitellmOperator.Identity.Run
import LitellmOperator.Sync.Kinds
import LitellmOperator.Sync.User

/-! # The identity of users and customers

A user is bound to the id in its status, but its updates are addressed to `spec.userId`. A customer
has no id in its status: it is bound to whatever `spec.customerId` says once it is synced. So one
resource keeps to one object only as long as nothing separates the two
(`one_identity`); an edit of `spec.customerId` does (`two_identities`).
-/

set_option autoImplicit false

namespace LitellmOperator

open Effect Protocol Go Kube Ctl Scene

/-! ## Users -/

namespace User

def addresses : UserApi → Option String
  | .update req => some req.userID
  | .setPassword userID _ => some userID
  | _ => none

@[reducible] def addressing : Addressing where
  toPushing := pushing
  addresses := addresses

variable {lib : Ext} {home : String} {teams : List UserTeam}
variable {E : UserPass}
variable {τ : UserScene}
variable {user : LiteLLMUser} {conn : ResolvedInstance}

theorem idle_get (userID : String) : addressing.IsIdle (.get userID) := ⟨rfl, rfl, rfl⟩

theorem isAdopted_marked (v : LiteLLMUser) :
    isAdopted (annotate v annotationAdopted annotationAdoptedValue).metadata = true := by
  unfold isAdopted annotate
  rw [lookup_assign_self]
  exact decide_eq_true rfl

/-- The stored user `out.1`, of the instance `key`, may be bound to `out.2`. -/
structure Bindable (key : NamespacedName) (τ : UserScene)
    (out : LiteLLMUser × String) : Prop where
  now : τ.Now out.1
  live : out.1.metadata.deleting = false
  finalizer : containsFinalizer out.1.metadata finalizerName = true
  id : out.2 ≠ ""
  refers : kind.refKey out.1 = key
  holds : ∀ st : LiteLLMUserStatus, st.litellmUserID = out.2 →
    addressing.Holds τ.log (out.1.withStatus st)

theorem wpE_adoptExisting_addressed {e : Error} (hE : addressing.Smooth E)
    (h : addressing.Held τ user user) :
    (E.rules kind lib home).wpE (adoptExistingUser conn user (createRequest user teams) e)
      (fun _ τ' => user.spec.userID ≠ "" ∧ τ'.Now user ∧ ∃ s log, τ'.log = s :: log ∧
        addressing.Holds log user ∧ s.key = conn.inst.metadata.key ∧
        ∃ req, s.req = .update req ∧ req.userID = user.spec.userID)
      (fun _ τ' => addressing.Held τ' user user) τ := by
  unfold adoptExistingUser
  rw [wpE_bind]
  refine wpE_failIf (fun _ => h) (fun hcond => ?_)
  have hid : user.spec.userID ≠ "" := by simp at hcond; exact hcond.2
  rw [wpE_bind, wpE_lift]
  refine Pass.wp_besideApi (N := addressing.IsIdle) (idle_get _) (fun r τ₁ hb => ?_)
  have h₁ : addressing.Held τ₁ user user := h.beside hb (fun _ _ hs hl => hl.idle hs)
  cases r with
  | error e' =>
    dsimp only
    split <;> exact h₁
  | ok info =>
    unfold updateCall
    rw [wpE_orFail]
    refine Pass.wp_api (fun a τ₂ _ hc => ⟨hid, ?_, _, _, hc.log, h₁.holds, rfl, _, rfl, rfl⟩)
      (fun e' τ₂ he _ => ?_)
    · unfold Scene.Now
      rw [hc.store]
      exact h₁.now
    · -- an update does not fail
      obtain ⟨a, ha⟩ := hE.carried τ₁ conn
        (.update { createRequest user teams with autoCreateKey := none }) (.inl rfl)
      rw [ha] at he
      cases he

theorem wpE_createOrAdopt_bindable (hE : addressing.Smooth E) (h : addressing.Held τ user user)
    (hkey : conn.inst.metadata.key = kind.refKey user) (hid : user.status.litellmUserID = "") :
    (E.rules kind lib home).wpE (createOrAdopt conn (createRequest user teams) user)
      (fun out τ' => Bindable (kind.refKey user) τ' out)
      (fun f τ' => addressing.Held τ' f.cr user) τ := by
  have hunbound : kind.bound user = none := by
    show idOf user.status.litellmUserID = none
    rw [hid]
    rfl
  unfold createOrAdopt
  rw [wpE_bind, wpE_lift]
  refine Pass.wp_api (fun resp τ₁ hresp hc => ?_) (fun e τ₁ _ hq => ?_)
  · have hsome : (idOf (show UserCreateResponse from resp).userID).isSome = true :=
      hE.named τ conn (.create (createRequest user teams)) resp rfl hresp
    have hne : (show UserCreateResponse from resp).userID ≠ "" := by
      intro hempty
      rw [hempty] at hsome
      cases hsome
    have hmakes : addressing.makes ⟨conn.inst.metadata.key, .create (createRequest user teams), resp⟩
        = some (kind.refKey user, (show UserCreateResponse from resp).userID) := by
      show (idOf _).map _ = _
      rw [idOf_of_ne hne, hkey]
      rfl
    refine ⟨?_, h.live, h.finalizer, hne, rfl, fun st hst => ?_⟩
    · unfold Scene.Now
      rw [hc.store]
      exact h.now
    · rw [hc.log]
      have hbound : kind.bound (user.withStatus st) =
          some (show UserCreateResponse from resp).userID := by
        show idOf st.litellmUserID = _
        rw [hst]
        exact idOf_of_ne hne
      exact h.holds.create hunbound hmakes rfl hbound rfl rfl h.finalizer
  · simp only [wpE_bind, wpE_orFail, wpE_pure]
    refine wp_mono (wpE_adoptExisting_addressed hE (h.quiet hq)) (fun r τ₂ h₂ => ?_)
    rcases r with e' | _
    · exact h₂
    obtain ⟨hne, hnow, s, log, hlog, hholds, hskey, req, hsreq, hreq⟩ := h₂
    refine Addressing.wpE_markAdopted (A := addressing) hE.calm hnow h.live (fun r τ₃ hst => ?_)
    obtain ⟨rv, gen, rfl⟩ := hst.stamped
    refine ⟨hst.now, h.live, h.finalizer, hne, rfl, fun st hst' => ?_⟩
    rw [hst.log, hlog]
    -- the mark is stored now, so the update was addressed to an adopted user
    have hbound : kind.bound (((annotate user annotationAdopted annotationAdoptedValue).stamp
        rv gen).withStatus st) = some user.spec.userID := by
      show idOf st.litellmUserID = _
      rw [hst']
      exact idOf_of_ne hne
    refine hholds.adopt hunbound ?_ ?_ (hskey.trans hkey) ?_ hbound rfl (isAdopted_marked user)
    · rw [hsreq]
      rfl
    · rw [hsreq]
      rfl
    · rw [hsreq]
      exact congrArg some hreq

/-- The user has an object on the instance `key`, and holds to it. -/
structure Settled (key : NamespacedName) (v : LiteLLMUser)
    (τ : UserScene) : Prop where
  refers : kind.refKey v = key
  id : v.status.litellmUserID ≠ ""
  held : ∃ c, addressing.Held τ v c

theorem wpE_createOrUpdate_settled (hE : addressing.Smooth E) (haim : Addressed lib user)
    (h : addressing.Held τ user user) (hkey : conn.inst.metadata.key = kind.refKey user) :
    (E.rules kind lib home).wpE (createOrUpdateUser lib conn (createRequest user teams) user)
      (Settled (kind.refKey user)) (fun f τ' => ∃ c, addressing.Held τ' f.cr c) τ := by
  unfold createOrUpdateUser
  split
  · rename_i hid
    unfold createUser
    rw [wpE_bind]
    refine wpE_mono (wpE_createOrAdopt_bindable hE h hkey hid) (fun out τ₁ h₁ => ?_)
      (fun f τ₁ hf => ⟨user, hf⟩)
    refine Addressing.wpE_recordCreated (A := addressing) annotates_syncHash hE.calm h₁.now h₁.live
      h₁.finalizer ?_ (h₁.holds _ ?_) (fun r τ₂ hr hst hk => ?_)
    · rfl
    · rfl
    · refine ⟨hk.trans h₁.refers, ?_, r, hr⟩
      rw [hst]
      exact h₁.id
  · rename_i hid
    unfold updateUser
    dsimp only
    split
    · exact ⟨rfl, hid, user, h⟩
    · rename_i hpush
      -- an update is due, so `spec.userId` is the id of the status
      have haddr : user.status.litellmUserID = user.spec.userID := by
        rcases haim with hnone | haddr | hskip
        · exact absurd hnone hid
        · exact haddr
        · exact absurd hskip hpush
      unfold updateCall
      rw [wpE_bind, wpE_orFail]
      refine Pass.wp_api (fun _ τ₁ _ hc => ?_) (fun e τ₁ _ hq => ⟨user, h.quiet hq⟩)
      have hbound : kind.bound user = some user.spec.userID := by
        rw [← haddr]
        exact idOf_of_ne hid
      have h₁ : addressing.Held τ₁ user user :=
        h.carried hc (h.holds.address rfl rfl hkey (fun x hx => hbound.trans hx))
      rw [wpE_bind]
      refine Addressing.wpE_storeSyncHash (A := addressing) annotates_syncHash hE.calm h₁
        (fun r τ₂ hr hst hk => ⟨hk, ?_, r, hr.copy rfl rfl rfl⟩)
      show r.status.litellmUserID ≠ ""
      rw [hst]
      exact hid

theorem kept_settled (hE : addressing.Smooth E) {key : NamespacedName}
    (hkey : conn.inst.metadata.key = key) :
    KeptByPassword lib home E conn (Settled key) where
  quiet := by
    rintro v st τ τ' ⟨hk, hid, c, h⟩ hq hst
    refine ⟨hk, ?_, c, (h.quiet hq).copy rfl rfl hst⟩
    show st.litellmUserID ≠ ""
    rw [hst]
    exact hid
  call := by
    rintro v τ password ⟨hk, hid, c, h⟩
    refine Pass.wp_api (fun _ τ' _ hc => ⟨hk, hid, c, ?_⟩)
      (fun e τ' _ hq => ⟨hk, hid, c, h.quiet hq⟩)
    -- the password goes to the user of the stored status
    have hkc : kind.refKey c = kind.refKey v := by
      unfold Kind.refKey
      rw [h.spec, h.metadata]
    have hbound : kind.bound c = some v.status.litellmUserID := by
      show idOf c.status.litellmUserID = _
      rw [← show v.status.litellmUserID = c.status.litellmUserID from h.tag]
      exact idOf_of_ne hid
    exact h.carried hc (h.holds.address rfl rfl (hkey.trans (hk.symm.trans hkc.symm))
      (fun x hx => hbound.trans hx))
  digest := by
    rintro v τ digest ⟨hk, hid, c, h⟩
    unfold recordDigest
    rw [wp_bind]
    refine Pass.wp_statusPatch h.now h.live (fun r τ' hst => ?_) (fun e _ he _ => ?_)
    · obtain ⟨rv, gen, rfl⟩ := hst.stamped
      -- the patch does not mention the id
      have hpatch : (LiteLLMUserStatus.mergeFrom v.status (setPasswordCondition
          { v with status.initialPasswordDigest := digest } .true "Applied"
          "Initial password applied").status c.status).litellmUserID = c.status.litellmUserID :=
        if_pos rfl
      refine ⟨?_, ?_, _, hst.now, rfl, rfl, h.live, h.finalizer, rfl, ?_⟩
      · rw [← hk]
        unfold Kind.refKey
        rw [h.spec, h.metadata]
        rfl
      · intro hempty
        exact hid (h.tag.trans (hpatch.symm.trans hempty))
      · rw [hst.log]
        refine Addressing.Holds.stamp ?_ rv gen
        exact h.holds.congr (congrArg idOf hpatch) rfl rfl h.holds.finalizer
    · rw [hE.calm] at he
      cases he

theorem wpE_reconcileUser_held (hE : addressing.Smooth E) (haim : Addressed lib user)
    (h : addressing.Held τ user user) (hkey : conn.inst.metadata.key = kind.refKey user) :
    (E.rules kind lib home).wpE (reconcileUser lib user conn)
      (fun out τ' => ∃ c, addressing.Held τ' out.1 c)
      (fun f τ' => ∃ c, addressing.Held τ' f.cr c) τ := by
  unfold reconcileUser
  rw [wpE_bind, wpE_orFail]
  refine Pass.wp_reads (isRead_of_plain (uses_resolveTeamRefs _ _)) (fun r τ₁ _ hq => ?_)
  have h₁ := h.quiet hq
  rcases r with e | teams
  · exact ⟨user, h₁⟩
  simp only [wpE_bind, wpE_lift, wpE_pure]
  refine wpE_post (wpE_createOrUpdate_settled hE haim h₁ hkey) (fun v τ₂ h₂ => ?_)
  refine wp_mono (wp_reconcileInitialPassword_keeps (kept_settled hE hkey) h₂)
    (fun applied τ₃ h₃ => ?_)
  obtain ⟨-, -, c, hc⟩ := h₃
  refine Pass.wp_besideApi (N := addressing.IsIdle) (idle_get _) (fun info τ₄ hb => ⟨c, ?_⟩)
  have h₄ := hc.beside hb (fun _ _ hs hl => hl.idle hs)
  cases info with
  | error e => exact h₄
  | ok info => exact h₄.copy rfl rfl rfl

theorem target_eq (v : LiteLLMUser) :
    target v = if kind.adopted v then none else kind.bound v := rfl

/-- Users keep to one object. -/
def identified (lib : Ext) : Identified lib where
  toAddressing := addressing
  controller := controller lib
  shaped := shaped lib
  target_eq := target_eq
  deletes _ := rfl
  creates_delete _ := rfl
  addresses_delete _ := rfl
  aimed := Addressed lib
  aimed_alike := by
    rintro v v' ⟨_, _, _, rfl⟩ h
    exact h
  body _ _ _ _ _ hE haim h hkey := wpE_reconcileUser_held hE haim h hkey

end User

/-! ## Customers -/

namespace Customer

def addresses : CustomerApi → Option String
  | .update req => some req.userID
  | _ => none

@[reducible] def addressing : Addressing where
  toPushing := pushing
  addresses := addresses

variable {lib : Ext} {home : String}
variable {E : CustomerPass}
variable {τ : CustomerScene}
variable {customer : LiteLLMCustomer} {conn : ResolvedInstance}

theorem wpE_createOrUpdate_held (hE : addressing.Smooth E) (h : addressing.Held τ customer customer)
    (hkey : conn.inst.metadata.key = kind.refKey customer) :
    (E.rules kind lib home).wpE (createOrUpdateCustomer lib conn customer)
      (fun v τ' => addressing.Held τ' v v) (fun f τ' => ∃ c, addressing.Held τ' f.cr c) τ := by
  unfold createOrUpdateCustomer
  split
  · rename_i hsynced
    have hbound : kind.bound customer = some customer.spec.customerID := if_pos hsynced
    unfold updateCustomer
    dsimp only
    split
    · exact h
    · rw [wpE_bind, wpE_orFail]
      refine Pass.wp_api (fun _ τ₁ _ hc => ?_) (fun e τ₁ _ hq => ⟨customer, h.quiet hq⟩)
      have h₁ : addressing.Held τ₁ customer customer :=
        h.carried hc (h.holds.address rfl rfl hkey (fun x hx => hbound.trans hx))
      exact Addressing.wpE_storeSyncHash (A := addressing) annotates_syncHash hE.calm h₁
        (fun r τ₂ hr _ _ => hr)
  · rename_i hsynced
    have hunbound : kind.bound customer = none := if_neg hsynced
    unfold createCustomer
    rw [wpE_bind, wpE_orFail]
    refine Pass.wp_api (fun a τ₁ _ hc => ?_) (fun e τ₁ _ hq => ⟨customer, h.quiet hq⟩)
    have hmakes : addressing.makes ⟨conn.inst.metadata.key, .create (createRequest customer), a⟩ =
        some (kind.refKey customer, customer.spec.customerID) :=
      congrArg (fun key => some (key, customer.spec.customerID)) hkey
    have hnow : τ₁.Now customer := by
      unfold Scene.Now
      rw [hc.store]
      exact h.now
    refine Addressing.wpE_recordCreated (A := addressing) annotates_syncHash hE.calm hnow h.live
      h.finalizer ?_ ?_ (fun r τ₂ hr _ _ => hr)
    · rfl
    · rw [hc.log]
      exact h.holds.create hunbound hmakes rfl rfl rfl rfl h.finalizer

/-- Customers keep to one object. -/
def identified (lib : Ext) : Identified lib where
  toAddressing := addressing
  controller := controller lib
  shaped := shaped lib
  target_eq _ := rfl
  deletes _ := rfl
  creates_delete _ := rfl
  addresses_delete _ := rfl
  aimed _ := True
  aimed_alike _ _ _ _ := trivial
  body home E conn v τ hE _ h hkey := by
    show (E.rules kind lib home).wpE (reconcileCustomer lib v conn) _ _ τ
    unfold reconcileCustomer
    simp only [wpE_bind, wpE_lift, wpE_pure]
    refine wpE_post (wpE_createOrUpdate_held hE h hkey) (fun v₁ τ₁ h₁ => ?_)
    refine Pass.wp_besideApi (N := addressing.IsIdle) ⟨rfl, rfl, rfl⟩ (fun info τ₂ hb => ⟨v₁, ?_⟩)
    have h₂ := h₁.beside hb (fun _ _ hs hl => hl.idle hs)
    cases info with
    | error e => exact h₂
    | ok info => exact h₂.copy rfl rfl rfl

end Customer

/-! ## Both kinds -/

inductive IdentifiedKind where
  | user
  | customer
  deriving DecidableEq

def IdentifiedKind.identified (lib : Ext) : IdentifiedKind → Identified lib
  | .user => User.identified lib
  | .customer => Customer.identified lib

/-- **One identity per resource.** Over every run of spec edits, failure-free reconciles and a
deletion in which edits keep the object that the resource is bound to and every reconcile that has
to update a user finds `spec.userId` to be the id in its status: updates and password changes are
addressed to an object that this resource has created, or has adopted under the mark, and what it
created is deleted when its finalizer goes. -/
theorem one_identity (k : IdentifiedKind) (lib : Ext) (req : NamespacedName)
    (cr : (k.identified lib).R.CR) {σ : (k.identified lib).R.RScene}
    (hunbound : (k.identified lib).R.kind.bound cr = none)
    (hmark : (k.identified lib).R.kind.adopted cr = false)
    (h : Reconciler.Passes lib req
      (fun τ t => (k.identified lib).Ordinary lib τ t ∧ (k.identified lib).Consistent τ t)
      ((k.identified lib).R.scene cr) σ) : (k.identified lib).OneIdentity σ :=
  Identified.oneIdentity_of_passes hunbound hmark h

/-! ## A customer -/

namespace Sample

def customer (customerID aliasName : String) : LiteLLMCustomer where
  metadata := { name := "customer", ns := "apps" }
  spec := { instanceRef := { name := "a" }, customerID := customerID, aliasName := aliasName }
  status := {}

/-- A hash that tells the first of these specs from the others. -/
def hashingCustomer : Ext :=
  { lib with
    computeSpecHash := fun v => match v with
      | .customer spec => if spec = (customer "acme" "Acme").spec
          then "0123456789abcdef" else "fedcba9876543210"
      | _ => "0123456789abcdef"
    computeSpecHash_length := fun v => by
      cases v with
      | customer spec =>
        show (if spec = (customer "acme" "Acme").spec then _ else _ : String).length = 16
        split <;> decide
      | _ => exact (by decide : "0123456789abcdef".length = 16) }

def customerInfo (customerID aliasName : String) : CustomerInfo where
  userID := customerID
  aliasName := aliasName
  budgetDuration := ""
  budgetID := ""
  blocked := false

def customerServed : (req : CustomerApi) → Option (Service.Result req)
  | .create req => some (customerInfo req.userID req.aliasName)
  | .update req => some (customerInfo req.userID req.aliasName)
  | .get customerID => some (customerInfo customerID "")
  | .delete _ => some ()

def customerPass : Reconciler.customer.RPass := pass (fun _ => none) customerServed

variable {σ : Reconciler.customer.RScene}

theorem failureFree_customer (hconn : ∃ v, σ.Now v ∧
      ∃ conn, readOff cluster (resolveInstanceForCleanup hashingCustomer (client : Reader
      CustomerCtl) v.metadata.ns v.spec.instanceRef).run = some (.ok conn)) :
    Customer.addressing.FailureFree hashingCustomer customerPass σ where
  calm _ := rfl
  carried _ _ req _ := by
    cases req with
    | delete customerID => exact ⟨(), rfl⟩
    | create body | update body | get customerID => exact ⟨_, rfl⟩
  named _ _ req _ hreq _ := by
    cases req with
    | create body => rfl
    | _ => cases hreq
  resolves := by
    intro v' hv' _
    obtain ⟨v, hv, hconn⟩ := hconn
    obtain rfl : v = v' := Option.some.inj (hv.symm.trans hv')
    exact hconn

theorem ordinary_edit {spec : LiteLLMCustomerSpec}
    (h : ∃ v, σ.Now v ∧ spec.instanceRef = v.spec.instanceRef) :
    Customer.addressing.Ordinary hashingCustomer σ (.env (.edit spec)) := by
  intro v' hv'
  obtain ⟨v, hv, href⟩ := h
  obtain rfl : v = v' := Option.some.inj (hv.symm.trans hv')
  exact href

theorem consistent_edit {spec : LiteLLMCustomerSpec}
    (h : ∃ v, σ.Now v ∧ spec.customerID = v.spec.customerID) :
    (Customer.identified hashingCustomer).Consistent σ (.env (.edit spec)) := by
  intro v' hv'
  obtain ⟨v, hv, hid⟩ := h
  obtain rfl : v = v' := Option.some.inj (hv.symm.trans hv')
  exact congrArg (fun id => if v.status.synced then some id else none) hid

end Sample

/-- A customer that is renamed and then deleted. -/
theorem one_identity_renamed : ∃ σ, Reconciler.takeAll Sample.hashingCustomer ⟨"apps", "customer"⟩
        (Reconciler.customer.scene (Sample.customer "acme" "Acme"))
        [.pass Sample.customerPass, .env (.edit (Sample.customer "acme" "ACME").spec),
          .pass Sample.customerPass, .env .remove, .pass Sample.customerPass] = some σ ∧
      σ.world.store.current = none ∧
      (Customer.identified Sample.hashingCustomer).OneIdentity σ := by
  refine ⟨_, rfl, by decide +kernel, ?_⟩
  exact one_identity .customer Sample.hashingCustomer ⟨"apps", "customer"⟩
    (Sample.customer "acme" "Acme") rfl rfl
    (.turn (t := .pass Sample.customerPass) (.turn (t := .env .remove)
        (.turn (t := .pass Sample.customerPass)
          (.turn (t := .env (.edit (Sample.customer "acme" "ACME").spec))
            (.turn (t := .pass Sample.customerPass) (.refl _)
              ⟨Sample.failureFree_customer ⟨_, rfl, _, rfl⟩, fun _ _ _ => trivial⟩ rfl)
            ⟨Sample.ordinary_edit ⟨_, rfl, rfl⟩, Sample.consistent_edit ⟨_, rfl, rfl⟩⟩ rfl)
          ⟨Sample.failureFree_customer ⟨_, rfl, _, rfl⟩, fun _ _ _ => trivial⟩ rfl)
        ⟨trivial, trivial⟩ rfl)
      ⟨Sample.failureFree_customer ⟨_, rfl, _, rfl⟩, fun _ _ _ => trivial⟩ rfl)

/-- After an edit of `spec.customerId` the next reconcile updates a customer that the resource has
not created. -/
theorem two_identities :
    ¬ ∀ (k : IdentifiedKind) (lib : Ext) (req : NamespacedName) (cr : (k.identified lib).R.CR)
      (σ : (k.identified lib).R.RScene),
      (k.identified lib).R.kind.bound cr = none → (k.identified lib).R.kind.adopted cr = false →
      Reconciler.Passes lib req ((k.identified lib).Ordinary lib) ((k.identified lib).R.scene cr) σ →
      (k.identified lib).OneIdentity σ := by
  intro hall
  have h := hall .customer Sample.hashingCustomer ⟨"apps", "customer"⟩
    (Sample.customer "acme" "Acme") _ rfl rfl
    (.turn (t := .pass Sample.customerPass)
      (.turn (t := .env (.edit (Sample.customer "other" "Acme").spec))
        (.turn (t := .pass Sample.customerPass) (.refl _)
          (Sample.failureFree_customer ⟨_, rfl, _, rfl⟩) rfl)
        (Sample.ordinary_edit ⟨_, rfl, rfl⟩) rfl)
      (Sample.failureFree_customer ⟨_, rfl, _, rfl⟩) rfl)
  -- the update that was sent last
  rcases h.addressed ⟨"apps", "a"⟩ (.update (Customer.updateRequest (Sample.customer "other" "Acme")))
    "other" (List.mem_cons_of_mem _ List.mem_cons_self) rfl with hmade | ⟨v, -, hadopted⟩
  · -- only `acme` was created
    have hother : ((⟨"apps", "a"⟩, "other") : Obj) = (⟨"apps", "a"⟩, "acme") :=
      List.mem_singleton.mp hmade
    exact absurd hother (by decide)
  · cases hadopted.mark

end LitellmOperator
