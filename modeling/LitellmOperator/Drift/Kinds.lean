import LitellmOperator.Drift.Remedy
import LitellmOperator.Upstream.VirtualKey

/-! # What has drifted is pushed again, or not

The six kinds that the config sync compares. A model is compared by fields that every push has. Of
the other kinds some fields are compared that an update leaves out: the alias of a key always, and
the rest when it is empty in the spec. A user whose id in the spec is not the one it was created
under is updated under the wrong id. Drift in such a field is found again in every cycle.
-/

set_option autoImplicit false

namespace LitellmOperator

open Effect Go Kube Ctl Scene

/-- Values that are compared and sent unless empty. -/
theorem text_remedied_iff {spec listed : String} (hdrift : spec ≠ listed) :
    spec = (if spec = "" then listed else spec) ↔ spec ≠ "" := by
  by_cases hs : spec = ""
  · rw [if_pos hs]
    exact ⟨fun h => absurd h hdrift, fun h => absurd hs h⟩
  · rw [if_neg hs]
    exact ⟨fun _ => hs, fun _ => rfl⟩

theorem text_shown_iff {spec listed : String} :
    spec = (if spec = "" then listed else spec) ↔ (spec ≠ "" ∨ listed = "") := by
  by_cases hs : spec = ""
  · rw [if_pos hs, hs]
    exact ⟨fun h => .inr h.symm, fun h => (h.resolve_left (fun h => h rfl)).symm⟩
  · rw [if_neg hs]
    exact ⟨fun _ => .inl hs, fun _ => rfl⟩

theorem nonEmpty_eq_idOf (id : String) : SyncKind.nonEmpty id = idOf id := by
  unfold SyncKind.nonEmpty idOf
  by_cases hid : id = ""
  · rw [if_pos hid, if_neg (not_not.mpr hid)]
  · rw [if_neg hid, if_pos hid]

/-! ## Teams and organizations

Their alias is sent by an update unless it is empty. -/

instance : DecidableEq SyncKind.teams.Spec := inferInstanceAs (DecidableEq LiteLLMTeamSpec)
instance : DecidableEq SyncKind.teams.Status := inferInstanceAs (DecidableEq LiteLLMTeamStatus)

def Team.remedy (lib : Ext) : Remedy lib where
  toMirrored := (Team.mirroring lib).toMirrored
  Info := TeamInfo
  apiID := SyncKind.teams.apiID
  managedID := SyncKind.teams.managedID
  isDrifted := SyncKind.teams.isDrifted
  Handles := SyncKind.teams.Handles
  Shows fs info := info.teamAlias = listedText (fs .teamAlias)
  Covers _ team _ := team.spec.teamAlias ≠ ""
  managedID_eq _ := nonEmpty_eq_idOf _
  isDrifted_congr v v' h := by
    funext info
    show decide (v.spec.teamAlias ≠ _) = decide (v'.spec.teamAlias ≠ _)
    rw [h]
  unhashed _ _ _ _ := SyncKind.Handles.unhashed (K := .teams)
  ready_unhashed _ _ _ _ := Iff.rfl
  hash_ne _ _ := lib.computeSpecHash_ne _
  covers_of_update E team y orgID fs info info' _ _ _ hshows hdrift hafter := by
    have hne : team.spec.teamAlias ≠ info.teamAlias := of_decide_eq_true hdrift
    rw [Mirror.afterUpdate_of_address rfl] at hafter
    have hlisted : info'.teamAlias =
        if team.spec.teamAlias = "" then info.teamAlias else team.spec.teamAlias := by
      rw [hshows]
      exact hafter.trans (listedText_overlay rfl)
    show decide (team.spec.teamAlias ≠ info'.teamAlias) = false ↔ _
    rw [decide_eq_false_iff_not, not_not, hlisted]
    exact text_remedied_iff hne
  covers_of_create _ _ _ _ _ _ _ hnot := absurd trivial hnot

instance : DecidableEq SyncKind.organizations.Spec :=
  inferInstanceAs (DecidableEq LiteLLMOrganizationSpec)
instance : DecidableEq SyncKind.organizations.Status :=
  inferInstanceAs (DecidableEq LiteLLMOrganizationStatus)

def Organization.remedy (lib : Ext) : Remedy lib where
  toMirrored := (Organization.mirroring lib).toMirrored
  Info := OrganizationInfo
  apiID := SyncKind.organizations.apiID
  managedID := SyncKind.organizations.managedID
  isDrifted := SyncKind.organizations.isDrifted
  Handles := SyncKind.organizations.Handles
  Shows fs info := info.organizationAlias = listedText (fs .organizationAlias)
  Covers _ org _ := org.spec.organizationAlias ≠ ""
  managedID_eq _ := nonEmpty_eq_idOf _
  isDrifted_congr v v' h := by
    funext info
    show decide (v.spec.organizationAlias ≠ _) = decide (v'.spec.organizationAlias ≠ _)
    rw [h]
  unhashed _ _ _ _ := SyncKind.Handles.unhashed (K := .organizations)
  ready_unhashed _ _ _ _ := Iff.rfl
  hash_ne _ _ := lib.computeSpecHash_ne _
  covers_of_update E org y _ fs info info' _ _ _ hshows hdrift hafter := by
    have hne : org.spec.organizationAlias ≠ info.organizationAlias := of_decide_eq_true hdrift
    rw [Mirror.afterUpdate_of_address rfl] at hafter
    have hlisted : info'.organizationAlias = if org.spec.organizationAlias = ""
        then info.organizationAlias else org.spec.organizationAlias := by
      rw [hshows]
      exact hafter.trans (listedText_overlay rfl)
    show decide (org.spec.organizationAlias ≠ info'.organizationAlias) = false ↔ _
    rw [decide_eq_false_iff_not, not_not, hlisted]
    exact text_remedied_iff hne
  covers_of_create _ _ _ _ _ _ _ hnot := absurd trivial hnot

/-! ## Users

Email and role are sent unless empty, to the id in the spec. -/

instance : DecidableEq SyncKind.users.Spec := inferInstanceAs (DecidableEq LiteLLMUserSpec)
instance : DecidableEq SyncKind.users.Status := inferInstanceAs (DecidableEq LiteLLMUserStatus)

theorem User.isDrifted_eq_false {user : LiteLLMUser} {info : UserInfo} :
    SyncKind.users.isDrifted user info = false ↔
      user.spec.userEmail = info.userEmail ∧ user.spec.userRole = info.userRole := by
  show (decide (user.spec.userEmail ≠ info.userEmail) ||
    decide (user.spec.userRole ≠ info.userRole)) = false ↔ _
  rw [Bool.or_eq_false_iff, decide_eq_false_iff_not, decide_eq_false_iff_not, not_not, not_not]

def User.remedy (lib : Ext) : Remedy lib where
  toMirrored := (User.mirroring lib).toMirrored
  Info := UserInfo
  apiID := SyncKind.users.apiID
  managedID := SyncKind.users.managedID
  isDrifted := SyncKind.users.isDrifted
  Handles := SyncKind.users.Handles
  Shows fs info := info.userEmail = listedText (fs .userEmail) ∧
    info.userRole = listedText (fs .userRole)
  Covers _ user info := user.spec.userID = user.status.litellmUserID ∧
    (user.spec.userEmail ≠ "" ∨ info.userEmail = "") ∧
    (user.spec.userRole ≠ "" ∨ info.userRole = "")
  managedID_eq _ := nonEmpty_eq_idOf _
  isDrifted_congr v v' h := by
    funext info
    show (decide (v.spec.userEmail ≠ _) || decide (v.spec.userRole ≠ _)) = _
    rw [h]
    rfl
  unhashed _ _ _ _ := SyncKind.Handles.unhashed (K := .users)
  ready_unhashed _ _ _ _ := Iff.rfl
  hash_ne _ _ := lib.computeSpecHash_ne _
  covers_of_update E user y teams fs info info' hobj _ _ hshows hdrift hafter := by
    obtain ⟨hid, -⟩ : user.status.litellmUserID = y ∧ y ≠ "" := idOf_eq_some.mp hobj
    by_cases haddress : user.spec.userID = y
    · -- the update reaches the user
      rw [Mirror.afterUpdate_of_address haddress] at hafter
      have hemail : info'.userEmail =
          if user.spec.userEmail = "" then info.userEmail else user.spec.userEmail := by
        rw [hshows.1]
        exact hafter.1.trans (listedText_overlay rfl)
      have hrole : info'.userRole =
          if user.spec.userRole = "" then info.userRole else user.spec.userRole := by
        rw [hshows.2]
        exact hafter.2.trans (listedText_overlay rfl)
      refine User.isDrifted_eq_false.trans ?_
      rw [hemail, hrole, text_shown_iff, text_shown_iff]
      exact ⟨fun h => ⟨haddress.trans hid.symm, h⟩, fun h => h.2⟩
    · rw [Mirror.afterUpdate_of_astray haddress] at hafter
      refine ⟨fun h => ?_, fun h => absurd (h.1.trans hid) haddress⟩
      obtain ⟨hemail, hrole⟩ := User.isDrifted_eq_false.mp h
      rw [hafter.1, ← hshows.1] at hemail
      rw [hafter.2, ← hshows.2] at hrole
      cases hdrift.symm.trans (User.isDrifted_eq_false.mpr ⟨hemail, hrole⟩)
  covers_of_create _ _ _ _ _ _ _ hnot := absurd trivial hnot

/-! ## Keys

An update has no alias. Only a key that is replaced gets the one in the spec. -/

instance : DecidableEq SyncKind.keys.Spec := inferInstanceAs (DecidableEq LiteLLMVirtualKeySpec)
instance : DecidableEq SyncKind.keys.Status := inferInstanceAs (DecidableEq LiteLLMVirtualKeyStatus)

theorem VirtualKey.isDrifted_eq_false {vk : LiteLLMVirtualKey} {info : KeyInfo} :
    SyncKind.keys.isDrifted vk info = false ↔ vk.spec.keyAlias = info.keyAlias := by
  show decide (vk.spec.keyAlias ≠ info.keyAlias) = false ↔ _
  rw [decide_eq_false_iff_not, not_not]

theorem VirtualKey.listedText_created {lib : Ext} {vk : LiteLLMVirtualKey}
    {owners : String × String} : listedText ((mirror lib).created vk.spec owners .keyAlias) =
      vk.spec.keyAlias := by
  show listedText (FieldValue.ofText vk.spec.keyAlias) = _
  unfold FieldValue.ofText
  by_cases halias : vk.spec.keyAlias = ""
  · rw [if_pos halias, halias]
    rfl
  · rw [if_neg halias]
    rfl

def VirtualKey.remedy (lib : Ext) : Remedy lib where
  toMirrored := (VirtualKey.mirroring lib).toMirrored
  Info := KeyInfo
  apiID := SyncKind.keys.apiID
  managedID := SyncKind.keys.managedID
  isDrifted := SyncKind.keys.isDrifted
  Handles := SyncKind.keys.Handles
  Shows fs info := info.keyAlias = listedText (fs .keyAlias)
  Covers E vk _ := ∀ secret,
    E.cluster (.getSecretUncached ⟨vk.metadata.ns, keySecretName vk⟩) ≠ .ok secret
  managedID_eq _ := nonEmpty_eq_idOf _
  isDrifted_congr v v' h := by
    funext info
    show decide (v.spec.keyAlias ≠ _) = decide (v'.spec.keyAlias ≠ _)
    rw [h]
  unhashed _ _ _ _ := SyncKind.Handles.unhashed (K := .keys)
  ready_unhashed E v r h := by
    obtain ⟨hspec, hstatus, hname, hns, -⟩ := h.same
    have hsecret : keySecretName r = keySecretName v := by
      unfold keySecretName
      rw [hspec, hstatus, hname]
    show (r.status.litellmKeyToken ≠ "" → _) ↔ (v.status.litellmKeyToken ≠ "" → _)
    rw [hstatus, hns, hsecret]
  hash_ne _ _ := lib.computeSpecHash_ne _
  covers_of_update E vk y owners fs info info' hobj hready _ hshows hdrift hafter := by
    rw [Mirror.afterUpdate_of_address rfl] at hafter
    have hsame : info'.keyAlias = info.keyAlias := by
      rw [hshows]
      exact hafter
    have hne : vk.spec.keyAlias ≠ info.keyAlias := of_decide_eq_true hdrift
    obtain ⟨htoken, hy⟩ : vk.status.litellmKeyToken = y ∧ y ≠ "" := idOf_eq_some.mp hobj
    obtain ⟨secret, hsecret⟩ := hready (by rw [htoken]; exact hy)
    refine VirtualKey.isDrifted_eq_false.trans ?_
    rw [hsame]
    exact ⟨fun h => absurd h hne, fun h => absurd hsecret (h secret)⟩
  covers_of_create E vk y owners info info' _ hnot _ hshows := by
    refine ⟨VirtualKey.isDrifted_eq_false.mpr ?_, fun secret hsecret => hnot ?_⟩
    · exact (hshows.trans VirtualKey.listedText_created).symm
    · exact fun _ => ⟨secret, hsecret⟩

/-! ## Customers

The alias is sent unless it is empty; `blocked` is compared only if it is set, and then it is
sent. -/

instance : DecidableEq SyncKind.customers.Spec := inferInstanceAs (DecidableEq LiteLLMCustomerSpec)
instance : DecidableEq SyncKind.customers.Status :=
  inferInstanceAs (DecidableEq LiteLLMCustomerStatus)

theorem Customer.isDrifted_eq_false {customer : LiteLLMCustomer} {info : CustomerInfo} :
    SyncKind.customers.isDrifted customer info = false ↔ customer.spec.aliasName = info.aliasName ∧
        ∀ blocked, customer.spec.blocked = some blocked → blocked = info.blocked := by
  show (decide (customer.spec.aliasName ≠ info.aliasName) ||
    customer.spec.blocked.any (fun blocked => blocked ≠ info.blocked)) = false ↔ _
  rw [Bool.or_eq_false_iff, decide_eq_false_iff_not, not_not]
  refine and_congr_right (fun _ => ?_)
  cases hblocked : customer.spec.blocked with
  | none => exact ⟨fun _ _ h => (by cases h), fun _ => rfl⟩
  | some b =>
    show decide (b ≠ info.blocked) = false ↔ _
    rw [decide_eq_false_iff_not, not_not]
    exact ⟨fun h b' hb => by rw [← Option.some.inj hb]; exact h, fun h => h b rfl⟩

def Customer.remedy (lib : Ext) : Remedy lib where
  toMirrored := (Customer.mirroring lib).toMirrored
  Info := CustomerInfo
  apiID := SyncKind.customers.apiID
  managedID := SyncKind.customers.managedID
  isDrifted := SyncKind.customers.isDrifted
  Handles := SyncKind.customers.Handles
  Shows fs info := info.aliasName = listedText (fs .aliasName) ∧
    info.blocked = listedFlag (fs .blocked)
  Covers _ customer info := customer.spec.aliasName ≠ "" ∨ info.aliasName = ""
  managedID_eq _ := rfl
  isDrifted_congr v v' h := by
    funext info
    show (decide (v.spec.aliasName ≠ _) || v.spec.blocked.any _) = _
    rw [h]
    rfl
  unhashed _ _ _ _ := SyncKind.Handles.unhashed (K := .customers)
  ready_unhashed _ _ _ _ := Iff.rfl
  hash_ne _ _ := lib.computeSpecHash_ne _
  covers_of_update E customer y refs fs info info' _ _ _ hshows hdrift hafter := by
    rw [Mirror.afterUpdate_of_address rfl] at hafter
    have halias : info'.aliasName =
        if customer.spec.aliasName = "" then info.aliasName else customer.spec.aliasName := by
      rw [hshows.1]
      exact hafter.1.trans (listedText_overlay rfl)
    have hblocked : ∀ blocked, customer.spec.blocked = some blocked → blocked = info'.blocked := by
      intro blocked hset
      have hsent : (Customer.mirroring lib).updated customer.spec refs y .blocked =
          some (.flag blocked) := by
        show customer.spec.blocked.map FieldValue.flag = _
        rw [hset]
        rfl
      rw [hafter.2, Record.overlay_of_ne (by rw [hsent]; exact Option.some_ne_none _), hsent]
      rfl
    refine Customer.isDrifted_eq_false.trans ?_
    rw [halias, text_shown_iff]
    exact ⟨fun h => h.1, fun h => ⟨h, hblocked⟩⟩
  covers_of_create _ _ _ _ _ _ _ hnot := absurd trivial hnot

/-! ## Models

Both fields that are compared are always sent. -/

instance : DecidableEq SyncKind.models.Spec := inferInstanceAs (DecidableEq LiteLLMModelSpec)
instance : DecidableEq SyncKind.models.Status := inferInstanceAs (DecidableEq LiteLLMModelStatus)

theorem Model.isDrifted_eq_false {model : LiteLLMModel} {info : ModelInfoResponse} :
    SyncKind.models.isDrifted model info = false ↔ model.spec.modelName = info.modelName ∧
      model.spec.litellmParams.model = info.params.model := by
  show (decide (model.spec.modelName ≠ info.modelName) ||
    decide (model.spec.litellmParams.model ≠ info.params.model)) = false ↔ _
  rw [Bool.or_eq_false_iff, decide_eq_false_iff_not, decide_eq_false_iff_not, not_not, not_not]

theorem Model.model_of_paramsOf {E : ModelPass}
    {ns : String} {spec : LiteLLMModelSpec} {params : ModelParams}
    (h : paramsOf E ns spec = some params) : params.model = spec.litellmParams.model := by
  unfold paramsOf at h
  obtain ⟨p, hp, rfl⟩ := Option.map_eq_some_iff.mp h
  obtain ⟨r, hr, hok⟩ := Option.bind_eq_some_iff.mp hp
  rcases r with f | p'
  · cases hok
  cases hok
  unfold resolveParams at hr
  split at hr
  · obtain ⟨_, -, hp⟩ := readOff_run_bind_ok.mp hr
    cases hp
    rfl
  · obtain ⟨_, -, hp⟩ := readOff_run_bind_ok.mp hr
    obtain ⟨_, -, hp⟩ := readOff_run_bind_ok.mp hp
    cases hp
    rfl

def Model.remedy (lib : Ext) : Remedy lib where
  toMirrored := Model.mirrored lib
  Info := ModelInfoResponse
  apiID := SyncKind.models.apiID
  managedID := SyncKind.models.managedID
  isDrifted := SyncKind.models.isDrifted
  Handles := SyncKind.models.Handles
  Shows fs info := info.modelName = listedText (fs .modelName) ∧
    info.params.model = listedText (fs .model)
  Covers _ _ _ := True
  managedID_eq _ := nonEmpty_eq_idOf _
  isDrifted_congr v v' h := by
    funext info
    show (decide (v.spec.modelName ≠ _) || decide (v.spec.litellmParams.model ≠ _)) = _
    rw [h]
    rfl
  unhashed _ _ _ _ := SyncKind.Handles.unhashed (K := .models)
  ready_unhashed E v r h := by
    have hmode : annotationAt r annotationAuthMode = annotationAt v annotationAuthMode :=
      h.annotationAt (by decide)
    show (annotationAt r annotationAuthMode = "" ∨
        annotationAt r annotationAuthMode = modeOf r.spec) ↔
      (annotationAt v annotationAuthMode = "" ∨ annotationAt v annotationAuthMode = modeOf v.spec)
    rw [hmode, h.same.1]
  hash_ne _ _ := lib.computeSpecHash_ne _
  covers_of_update E model y params fs info info' _ _ hparams hshows hdrift hafter := by
    rw [Mirror.afterUpdate_of_address rfl] at hafter
    have hname : info'.modelName = model.spec.modelName := hafter.1.trans (listedText_sent rfl)
    have hmodel : info'.params.model = params.model := hafter.2.trans (listedText_sent rfl)
    refine Model.isDrifted_eq_false.trans ?_
    rw [hname, hmodel, Model.model_of_paramsOf hparams]
    exact ⟨fun _ => trivial, fun _ => ⟨rfl, rfl⟩⟩
  covers_of_create E model y params info info' _ _ hparams hshows := by
    have hmodel : info'.params.model = params.model := hshows.2
    refine ⟨Model.isDrifted_eq_false.mpr ⟨hshows.1.symm, ?_⟩, trivial⟩
    rw [hmodel, Model.model_of_paramsOf hparams]

/-! ## All kinds -/

def SyncName.remedy (lib : Ext) : SyncName → Remedy lib
  | .models => Model.remedy lib
  | .teams => Team.remedy lib
  | .users => User.remedy lib
  | .keys => VirtualKey.remedy lib
  | .organizations => Organization.remedy lib
  | .customers => Customer.remedy lib

/-- **When drift is remedied.** Of each kind: a resource that has drifted shows no drift after its
sync hash was cleared and it was reconciled, if and only if its update sends what has drifted. -/
theorem drift_remedied_iff (n : SyncName) {lib : Ext} {s : ConfigSyncer} {req : NamespacedName}
    {E : (n.remedy lib).R.RPass} {σ : (n.remedy lib).R.RScene} {cr : (n.remedy lib).R.CR}
    {info : (n.remedy lib).Info}
    {store : Store (n.remedy lib).R.Spec (n.remedy lib).R.Status}
    (h : (n.remedy lib).Cycle s req E σ cr info store) :
    ∃ r y fs, (Reconciler.done lib req (Remedy.afterSync σ store) E).Now r ∧
      (n.remedy lib).managedID r = some y ∧
      (n.remedy lib).fields (Reconciler.done lib req (Remedy.afterSync σ store) E) = some fs ∧
      ∀ info', (n.remedy lib).apiID info' = y → (n.remedy lib).Shows fs info' →
        ((n.remedy lib).isDrifted r info' = false ↔ (n.remedy lib).Covers E cr info) :=
  Remedy.remedied_iff h

/-! ## A key that was renamed in LiteLLM -/

namespace Sample

def driftedKey : LiteLLMVirtualKey where
  metadata := { name := "key", ns := "apps", annotations := some [(annotationSyncHash, "0123")] }
  spec := { instanceRef := { name := "a" }, keyAlias := "mine" }
  status := { litellmKeyToken := "tok" }

def driftConn : ResolvedInstance where
  endpoint := "http://litellm:4000"
  masterKey := "sk-master"
  caCert := ""
  inst := inst "a"

/-- The key as LiteLLM has it, under another alias. -/
def driftScene : Reconciler.virtualKey.RScene :=
  { Reconciler.virtualKey.scene driftedKey with
    trace := [⟨.api driftConn (KeyApi.generate { keyAlias := "theirs" }),
      .ok (show KeyGenerateResponse from ⟨"sk-1", "tok"⟩)⟩] }

def driftListed : KeyInfo := { token := "tok", keyAlias := "theirs", isActive := true }

/-- The Secret of the key is there, or not. -/
def driftCluster (kept : Bool) : (r : Read) → Except Error r.Obj
  | .getSecretUncached key =>
    if kept then .ok (show Secret from
      { metadata := { name := key.name, ns := key.ns }, data := [("api_key", "sk-1")] })
    else .error (.leaf (.kube Store.notFound))
  | r => cluster r

def driftServed : (req : KeyApi) → Except Error (Service.Result req)
  | .generate _ => .ok (show KeyGenerateResponse from ⟨"sk-2", "tok-2"⟩)
  | .update _ => .ok ()
  | .delete _ => .ok ()
  | .get _ => .ok driftListed

def driftPass (kept : Bool) : Reconciler.virtualKey.RPass where
  cluster := driftCluster kept
  fits := by
    intro r o h
    cases r with
    | getSecretUncached key => rfl
    | _ => exact fits_cluster _ o h
  fault _ := none
  serve _ _ := driftServed
  random _ := .ok []

def crdWins : ConfigSyncer := ⟨inst "a", {}⟩

def driftWritten : LiteLLMVirtualKey × Store LiteLLMVirtualKeySpec LiteLLMVirtualKeyStatus :=
  driftScene.world.store.put driftedKey (withoutSyncHash driftedKey)

theorem cycle_driftedKey (kept : Bool) (hsynced : ((Reconciler.done lib ⟨"apps", "key"⟩
      (Remedy.afterSync (M := VirtualKey.remedy lib) driftScene driftWritten.2)
      (driftPass kept)).reported.any
        (fun r => isStatusConditionTrue r.status.conditions conditionSynced)) = true) :
    (VirtualKey.remedy lib).Cycle crdWins ⟨"apps", "key"⟩ (driftPass kept) driftScene driftedKey
      driftListed driftWritten.2 where
  wins := .inr rfl
  now := rfl
  live := rfl
  managed := rfl
  listed := ⟨_, rfl, rfl⟩
  drifted := rfl
  handled := SyncKind.Handles.of_update (K := .keys) (.inr rfl) rfl rfl
  honest τ conn req a h := by
    cases req with
    | generate body =>
      cases h
      exact (by decide : "tok-2" ≠ "")
    | _ => trivial
  success := by
    obtain ⟨r, hr, hs⟩ := (Option.any_eq_true _ _).mp hsynced
    exact ⟨r, hr, hs⟩

end Sample

/-- Without its Secret the key is replaced, and the new one has the alias of the spec. -/
theorem drift_remedied_replaced :
    (VirtualKey.remedy Sample.lib).Cycle Sample.crdWins ⟨"apps", "key"⟩ (Sample.driftPass false)
        Sample.driftScene Sample.driftedKey Sample.driftListed Sample.driftWritten.2 ∧
      ∃ r y fs, (VirtualKey.remedy Sample.lib).managedID r = some y ∧
        (VirtualKey.remedy Sample.lib).fields (Reconciler.done Sample.lib ⟨"apps", "key"⟩
          (Remedy.afterSync (M := VirtualKey.remedy Sample.lib) Sample.driftScene Sample.driftWritten.2)
          (Sample.driftPass false)) = some fs ∧
        ∀ info', (VirtualKey.remedy Sample.lib).apiID info' = y →
          (VirtualKey.remedy Sample.lib).Shows fs info' →
          (VirtualKey.remedy Sample.lib).isDrifted r info' = false := by
  have hcycle := Sample.cycle_driftedKey false (by decide +kernel)
  obtain ⟨r, y, fs, -, hy, hfs, hiff⟩ := drift_remedied_iff .keys hcycle
  refine ⟨hcycle, r, y, fs, hy, hfs, fun info' hid hshows => (hiff info' hid hshows).mpr ?_⟩
  intro secret h
  cases h

/-- **An update of a key has no alias.** The drift stays. -/
theorem drift_not_remedied :
    ¬ ∀ (n : SyncName) (lib : Ext) (s : ConfigSyncer) (req : NamespacedName)
      (E : (n.remedy lib).R.RPass) (σ : (n.remedy lib).R.RScene) (cr : (n.remedy lib).R.CR)
      (info : (n.remedy lib).Info)
      (store : Store (n.remedy lib).R.Spec (n.remedy lib).R.Status),
      (n.remedy lib).Cycle s req E σ cr info store →
      ∃ r y fs, (Reconciler.done lib req (Remedy.afterSync σ store) E).Now r ∧
        (n.remedy lib).managedID r = some y ∧
        (n.remedy lib).fields (Reconciler.done lib req (Remedy.afterSync σ store) E) = some fs ∧
        ∀ info', (n.remedy lib).apiID info' = y → (n.remedy lib).Shows fs info' →
          (n.remedy lib).isDrifted r info' = false := by
  intro hall
  have hcycle := Sample.cycle_driftedKey true (by decide +kernel)
  obtain ⟨r, y, fs, hnow, hy, hfs, hno⟩ := hall .keys _ _ _ _ _ _ _ _ hcycle
  obtain ⟨r', y', fs', hnow', hy', hfs', hiff⟩ := Remedy.remedied_iff hcycle
  obtain rfl := Option.some.inj (hnow.symm.trans hnow')
  obtain rfl := Option.some.inj (hfs.symm.trans hfs')
  obtain rfl := Option.some.inj (hy.symm.trans hy')
  -- the entry of the key after the reconcile
  have hcovers := (hiff ⟨y, listedText (fs .keyAlias), none, true, []⟩ rfl rfl).mp (hno _ rfl rfl)
  -- the Secret is there, so the key was not replaced
  exact hcovers _ rfl

end LitellmOperator
