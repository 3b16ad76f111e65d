import LitellmOperator.Members.Protocol

/-! # Whose members the operator removes

The world of one team and its members. Others add and remove members at any time, tenants edit the
members of the spec, every call may fail, with or without having taken effect, and a reconcile may
start from any past version of the resource. `own` is history that no program reads: the emails for
which the operator's own `AddMember` has succeeded, less those that others have removed and added
again since.

The operator takes everyone in the spec for its own, and so it removes members that others have
added (`removes_others_member`). It does not if the members of the spec who are in the team when it
looks were added by it, adding a member does not fail, and others do not add back a member of its
own that they have removed (`removes_own_members`).
-/

set_option autoImplicit false

namespace LitellmOperator

open Effect Go Kube

abbrev TeamOp : Type := Op LiteLLMTeamSpec LiteLLMTeamStatus TeamApi

structure MemberWorld where
  store : Store LiteLLMTeamSpec LiteLLMTeamStatus
  members : List String := []
  /-- The resource as the last reconcile got it. -/
  began : Option LiteLLMTeam := none
  own : List String := []
  /-- Members of its own that others have removed. -/
  left : List String := []

inductive MemberEnv where
  | edit (members : List TeamMember)
  /-- Someone else adds a member. -/
  | join (email : String)
  /-- Someone else removes a member. -/
  | leave (email : String)

variable (w : MemberWorld)

namespace MemberWorld

/-- The operator has added a member, and knows. -/
def added (email : String) : MemberWorld :=
  { w with members := email :: w.members, own := email :: w.own
           left := w.left.filter (· ≠ email) }

def without (email : String) : MemberWorld :=
  { w with members := w.members.filter (· ≠ email) }

/-- A listing has everyone in the team, and no one else. -/
def lists (ms : List TeamMemberInfo) : Bool :=
  ms.all (fun m => w.members.contains m.email) &&
    w.members.all (fun e => ms.any (fun m => m.email = e))

/-- LiteLLM carries out a request of which the answer gets lost, or not. -/
def serve (result : (req : TeamApi) → Option (Service.Result req)) (lost : Option Error) :
    (req : TeamApi) →
      Option (Except Error (Service.Result req) × MemberWorld)
  | .listMembers id => (result (.listMembers id)).bind (fun ms =>
    if w.lists ms then some (lost.elim (.ok ms) .error, w) else none)
  | .addMember _ email _ =>
    match lost with
    | none => some (.ok (), w.added email)
    | some e => some (.error e, { w with members := email :: w.members })
  | .removeMember _ email => some (lost.elim (.ok ()) .error, w.without email)
  | req => (result req).map (fun a => (lost.elim (.ok a) .error, w))

def answer : (op : TeamOp) → Reply TeamApi → Option (op.Resp × MemberWorld)
  | .get _, .cached age =>
    w.store.versions[age]?.map (fun v => (.ok v, { w with began := some v }))
  | .update obj, .done =>
    let out := Tracker.commit w.store (w.store.update obj) none
    some (out.1, { w with store := out.2 })
  | .update obj, .lost e =>
    let out := Tracker.commit w.store (w.store.update obj) (some e)
    some (out.1, { w with store := out.2 })
  | .statusUpdate obj, .done =>
    let out := Tracker.commit w.store (w.store.statusUpdate obj) none
    some (out.1, { w with store := out.2 })
  | .statusUpdate obj, .lost e =>
    let out := Tracker.commit w.store (w.store.statusUpdate obj) (some e)
    some (out.1, { w with store := out.2 })
  | .read r, .found obj => (obj r).map (fun o => (.ok o, w))
  | .random _, .bytes bs => some (.ok bs, w)
  | .api _ req, .served result lost => w.serve result lost req
  | op, .fail e => some (op.failed e, w)
  | _, _ => none

def env : MemberEnv → Option MemberWorld
  | .edit members => w.store.current.bind (fun cur =>
    (w.store.edit { cur.spec with members := members }).map (fun store =>
      { w with store := store }))
  | .join email =>
    if email ∈ w.members then none
    else some { w with
      members := email :: w.members
      own := if email ∈ w.left then w.own.filter (· ≠ email) else w.own
      left := w.left.filter (· ≠ email) }
  | .leave email =>
    if email ∈ w.members then some { w with
      members := w.members.filter (· ≠ email)
      left := if email ∈ w.own then email :: w.left else w.left }
    else none

/-- A team has just been created by a tenant; others have put some members into it. -/
def initial (cr : LiteLLMTeam) (members : List String) : MemberWorld :=
  { store := .created cr, members := members }

end MemberWorld

def memberLifecycle (lib : Ext) (req : NamespacedName) :
    Machine TeamOp Op.Resp MemberWorld (Reply TeamApi) MemberEnv where
  answer := MemberWorld.answer
  env := MemberWorld.env
  main := do
    let _ ← Team.reconcile lib req
    pure ()

abbrev MemberConf : Type := Conf TeamOp Op.Resp MemberWorld

namespace Team

/-! ## The side condition -/

/-- Members of the spec who are in the team were added by the operator. -/
def OwnMembers : Prop :=
  ∀ b ∈ w.began, ∀ e ∈ specEmails b.spec, e ∈ w.members → e ∈ w.own

instance (w : MemberWorld) : Decidable (OwnMembers w) := by
  unfold OwnMembers
  infer_instance

/-- When the team is listed, the members of the spec who are in it were added by the operator;
adding a member does not fail; and others do not add back whom the operator had added. -/
def separate : Guard TeamOp MemberWorld (Reply TeamApi) MemberEnv where
  env w e :=
    match e with
    | .join email => email ∉ w.left
    | _ => True
  reply w op rep :=
    match op, rep with
    | .api _ (.listMembers _), .served _ _ => OwnMembers w
    | .api _ (.addMember _ _ _), .served _ none => True
    | .api _ (.addMember _ _ _), _ => False
    | _, _ => True
  crash _ := True

/-! ## The invariant -/

structure Owning (w : MemberWorld) (s? : Option bookkeeping.State) : Prop where
  versions : ∀ v ∈ w.store.versions, Mixed v.spec ∧ ∀ e ∈ crdEmails v.status, e ∈ w.own
  copy : ∀ s c, s? = some s → s.copy = some c → c ∈ w.store.versions
  wanted : ∀ s x, s? = some s → s.aux = some x →
    ∃ b, w.began = some b ∧ x.wanted = specEmails b.spec
  own : ∀ s x, s? = some s → s.aux = some x → ∀ e ∈ x.own, e ∈ w.own

variable {w w' : MemberWorld} {s : bookkeeping.State} {s? : Option bookkeeping.State}

theorem Owning.grow (h : Owning w s?) (hstore : w'.store = w.store) (hbegan : w'.began = w.began)
    (hown : ∀ e ∈ w.own, e ∈ w'.own) : Owning w' s? where
  versions v hv := by
    rw [hstore] at hv
    exact ⟨(h.versions v hv).1, fun e he => hown e ((h.versions v hv).2 e he)⟩
  copy t c ht hc := by
    rw [hstore]
    exact h.copy t c ht hc
  wanted t x ht hx := by
    rw [hbegan]
    exact h.wanted t x ht hx
  own t x ht hx e he := hown e (h.own t x ht hx e he)

theorem Owning.restore {store : Store LiteLLMTeamSpec LiteLLMTeamStatus} {cur v r : LiteLLMTeam}
    {t? : Option bookkeeping.State} (h : Owning w s?)
    (hw : Store.Written w.store cur v r store) (hspec : Mixed v.spec)
    (hlist : ∀ e ∈ crdEmails v.status, e ∈ w.own)
    (ht : ∀ t, t? = some t → ∃ s, s? = some s ∧ (t.copy = some r ∨ t.copy = s.copy) ∧
      t.aux = s.aux) : Owning { w with store := store } t? where
  versions x hx := by
    rcases hw.only x hx with rfl | hold
    · obtain ⟨rv, gen, rfl⟩ := hw.stored
      exact ⟨hspec, hlist⟩
    · exact h.versions x hold
  copy t c htq hc := by
    obtain ⟨s, hs, hr | hcopy, -⟩ := ht t htq
    · rw [hr] at hc
      cases hc
      exact hw.mem
    · exact hw.grows c (h.copy s c hs (hcopy.symm.trans hc))
  wanted t x htq hx := by
    obtain ⟨s, hs, -, haux⟩ := ht t htq
    exact h.wanted s x hs (haux.symm.trans hx)
  own t x htq hx := by
    obtain ⟨s, hs, -, haux⟩ := ht t htq
    exact h.own s x hs (haux.symm.trans hx)

/-- The call was answered as expected, and the invariant holds after it. -/
def Kept (s : bookkeeping.State) (op : TeamOp) (r : op.Resp) (w' : MemberWorld) : Prop :=
  bookkeeping.expects s op r ∧ Owning w' (some (bookkeeping.after s op r))

variable {lost : Option Error}

theorem kept_update {obj : LiteLLMTeam} (h : Owning w (some s))
    (ha : bookkeeping.allowed s (.update obj)) :
    Kept s (.update obj) (Tracker.commit w.store (w.store.update obj) lost).1
      { w with store := (Tracker.commit w.store (w.store.update obj) lost).2 } := by
  obtain ⟨hexp, hcases⟩ := Tracker.made_update ha (h.copy s · rfl) (Prod.eta _).symm
  refine ⟨hexp, ?_⟩
  rcases hcases with ⟨hstore, hsame⟩ | ⟨c, v, hc, hspec, hw, hafter⟩
  · rw [hstore, hsame]
    exact h
  · -- the spec and the status are those of the copy
    obtain ⟨hmixed, hlist⟩ := h.versions c (h.copy s c rfl hc)
    refine h.restore hw (by rw [← hspec] at hmixed; exact hmixed) hlist (fun t ht => ?_)
    cases ht
    rcases hafter with hafter | hafter
    · rw [hafter]
      exact ⟨s, rfl, .inl rfl, rfl⟩
    · rw [hafter]
      exact ⟨s, rfl, .inr rfl, rfl⟩

theorem kept_statusUpdate {obj : LiteLLMTeam} (h : Owning w (some s))
    (ha : bookkeeping.allowed s (.statusUpdate obj)) :
    Kept s (.statusUpdate obj) (Tracker.commit w.store (w.store.statusUpdate obj) lost).1
      { w with store := (Tracker.commit w.store (w.store.statusUpdate obj) lost).2 } := by
  obtain ⟨hexp, hcases⟩ := Tracker.made_statusUpdate ha (h.copy s · rfl) (Prod.eta _).symm
  refine ⟨hexp, ?_⟩
  rcases hcases with ⟨hstore, hsame⟩ | ⟨c, x, v, hc, hx, hmay, hw, hafter⟩
  · rw [hstore, hsame]
    exact h
  · obtain ⟨hmixed, hlist⟩ := h.versions c (h.copy s c rfl hc)
    refine h.restore hw hmixed (fun e he => ?_) (fun t ht => ?_)
    · rcases hmay e he with hold | hown
      · exact hlist e hold
      · exact h.own s x rfl hx e hown
    · cases ht
      rcases hafter with hafter | hafter
      · rw [hafter]
        exact ⟨s, rfl, .inl rfl, rfl⟩
      · rw [hafter]
        exact ⟨s, rfl, .inr rfl, rfl⟩

theorem kept_get {key : NamespacedName} {v : LiteLLMTeam} (h : Owning w (some s))
    (hv : v ∈ w.store.versions) : Kept s (.get key) (.ok v) { w with began := some v } := by
  refine ⟨(h.versions v hv).1, h.versions, fun t c ht hc => ?_, fun t x ht hx => ?_,
    fun t x ht hx => ?_⟩
  · cases ht
    cases hc
    exact hv
  · cases ht
    cases hx
    exact ⟨v, rfl, rfl⟩
  · cases ht
    cases hx
    exact (h.versions v hv).2

variable {conn : ResolvedInstance} {req : TeamApi}

/-- The books after an answer: who is counted as the operator's own is. -/
theorem Owning.called {r : Except Error (Service.Result req)} (h : Owning w (some s))
    (hstore : w'.store = w.store) (hbegan : w'.began = w.began) (hown : ∀ e ∈ w.own, e ∈ w'.own)
    (hnext : ∀ x : Bookkeeping, s.aux = some x →
      (x.next req r).wanted = x.wanted ∧ ∀ e ∈ (x.next req r).own, e ∈ x.own ∨ e ∈ w'.own) :
    Owning w' (some (bookkeeping.after s (.api conn req) r)) := by
  have hgrown := h.grow hstore hbegan hown
  have hnew : ∀ x', s.aux.map (fun x : Bookkeeping => x.next req r) = some x' →
      ∃ x, s.aux = some x ∧ x.next req r = x' := fun x' hx' => Option.map_eq_some_iff.mp hx'
  refine ⟨hgrown.versions, fun t c ht hc => ?_, fun t x' ht hx' => ?_, fun t x' ht hx' e he => ?_⟩
  · cases ht
    exact hgrown.copy s c rfl hc
  · cases ht
    obtain ⟨x, hx, rfl⟩ := hnew x' hx'
    obtain ⟨b, hb, hwanted⟩ := hgrown.wanted s x rfl hx
    exact ⟨b, hb, (hnext x hx).1.trans hwanted⟩
  · cases ht
    obtain ⟨x, hx, rfl⟩ := hnew x' hx'
    rcases (hnext x hx).2 e he with hold | hnow
    · exact hgrown.own s x rfl hx e hold
    · exact hnow

theorem kept_failed {e : Error} (h : Owning w (some s))
    (hadd : ∀ id email role, req ≠ .addMember id email role) :
    Kept s (.api conn req) (.error e) w := by
  refine ⟨fun x _ => ?_, h.called rfl rfl (fun _ he => he) (fun x _ => ?_)⟩
  · cases req with
    | addMember id email role => exact absurd rfl (hadd id email role)
    | _ => trivial
  · have hnext : x.next req (.error e) = x := by
      cases req <;> rfl
    rw [hnext]
    exact ⟨rfl, fun _ he => .inl he⟩

theorem kept_listMembers {id : String} {ms : List TeamMemberInfo} (h : Owning w (some s))
    (hG : OwnMembers w) (hms : w.lists ms = true) :
    Kept s (.api conn (.listMembers id)) (lost.elim (.ok ms) .error) w := by
  cases lost with
  | some e => exact kept_failed h (fun _ _ _ heq => by cases heq)
  | none =>
    refine ⟨fun _ _ => trivial, h.called rfl rfl (fun _ he => he) (fun x hx => ⟨rfl, ?_⟩)⟩
    intro e he
    rcases List.mem_append.mp he with hold | hnew
    · exact .inl hold
    · obtain ⟨hin, hwanted⟩ := List.mem_filter.mp hnew
      obtain ⟨b, hb, hxb⟩ := h.wanted s x rfl hx
      obtain ⟨m, hm, rfl⟩ := List.mem_map.mp hin
      have hmember : m.email ∈ w.members := by
        have hall := (Bool.and_eq_true_iff.mp hms).1
        simpa using List.all_eq_true.mp hall m hm
      refine .inr (hG b hb _ ?_ hmember)
      rw [← hxb]
      exact of_decide_eq_true hwanted

theorem kept_api {rep : Reply TeamApi} {r : (Op.api conn req : TeamOp).Resp} (h : Owning w (some s))
    (hG : separate.reply w (.api conn req) rep) (hx : w.answer (.api conn req) rep = some (r, w')) :
    Kept s (.api conn req) r w' := by
  cases rep with
  | fail e =>
    cases hx
    refine kept_failed h (fun id email role heq => ?_)
    subst heq
    exact hG
  | served result lost =>
    cases req with
    | listMembers id =>
      obtain ⟨ms, -, hin⟩ := Option.bind_eq_some_iff.mp hx
      split at hin
      · rename_i hms
        cases hin
        exact kept_listMembers h hG hms
      · cases hin
    | addMember id email role =>
      cases lost with
      | some e => exact hG.elim
      | none =>
        cases hx
        refine ⟨fun _ _ => trivial, h.called rfl rfl
          (fun e he => List.mem_cons_of_mem _ he) (fun x _ => ⟨rfl, fun e he => ?_⟩)⟩
        rcases List.mem_cons.mp he with rfl | hold
        · exact .inr List.mem_cons_self
        · exact .inl hold
    | removeMember id email =>
      cases hx
      cases lost with
      | some e =>
        have hfailed : Kept s (.api conn (.removeMember id email)) (.error e) w :=
          kept_failed h (fun _ _ _ heq => by cases heq)
        exact ⟨hfailed.1, hfailed.2.grow rfl rfl (fun _ he => he)⟩
      | none =>
        exact ⟨fun _ _ => trivial,
          h.called rfl rfl (fun _ he => he) (fun x _ => ⟨rfl, fun _ he => .inl he⟩)⟩
    | _ =>
      obtain ⟨a, -, heq⟩ := Option.map_eq_some_iff.mp hx
      cases heq
      cases lost with
      | some e => exact kept_failed h (fun _ _ _ heq => by cases heq)
      | none =>
        exact ⟨fun _ _ => trivial,
          h.called rfl rfl (fun _ he => he) (fun x _ => ⟨rfl, fun _ he => .inl he⟩)⟩
  | _ => cases hx

/-- **One call.** Whatever the call is answered, the invariant holds after it. -/
theorem kept_call {op : TeamOp} {rep : Reply TeamApi} {r : op.Resp} (h : Owning w (some s))
    (ha : bookkeeping.allowed s op) (hG : separate.reply w op rep)
    (hx : w.answer op rep = some (r, w')) : Kept s op r w' := by
  cases op with
  | api conn req => exact kept_api h hG hx
  | get key =>
    cases rep with
    | cached age =>
      obtain ⟨v, hv, heq⟩ := Option.map_eq_some_iff.mp hx
      cases heq
      exact kept_get h (List.mem_of_getElem? hv)
    | fail e =>
      cases hx
      exact ⟨trivial, h⟩
    | _ => cases hx
  | update obj =>
    cases rep with
    | done | lost e =>
      cases hx
      exact kept_update h ha
    | fail e =>
      cases hx
      exact ⟨trivial, h⟩
    | _ => cases hx
  | statusUpdate obj =>
    cases rep with
    | done | lost e =>
      cases hx
      exact kept_statusUpdate h ha
    | fail e =>
      cases hx
      exact ⟨trivial, h⟩
    | _ => cases hx
  | read rd =>
    cases rep with
    | found obj =>
      obtain ⟨o, -, heq⟩ := Option.map_eq_some_iff.mp hx
      cases heq
      exact ⟨trivial, h⟩
    | fail e =>
      cases hx
      exact ⟨trivial, h⟩
    | _ => cases hx
  | random n =>
    cases rep with
    | bytes bs | fail e =>
      cases hx
      exact ⟨trivial, h⟩
    | _ => cases hx
  | statusPatch base obj | createSecret x | updateSecret x => exact ha.elim

/-- **One step of the environment.** -/
theorem owning_env {e : MemberEnv} (h : Owning w s?) (hG : separate.env w e)
    (hx : w.env e = some w') : Owning w' s? := by
  cases e with
  | edit members =>
    obtain ⟨cur, hcur, hedit⟩ := Option.bind_eq_some_iff.mp hx
    obtain ⟨store, hstore, rfl⟩ := Option.map_eq_some_iff.mp hedit
    obtain ⟨cur', r, hw⟩ := Store.edit_some hstore
    have heq : cur' = cur := Option.some.inj (hw.was.symm.trans hcur)
    subst heq
    obtain ⟨hmixed, hlist⟩ := h.versions cur' (Store.mem_of_current hcur)
    exact h.restore hw hmixed hlist (fun t ht => ⟨t, ht, .inr rfl, rfl⟩)
  | join email =>
    change (if email ∈ w.members then none else some _) = some w' at hx
    split at hx
    · cases hx
    · cases hx
      refine h.grow rfl rfl (fun e he => ?_)
      show e ∈ (if email ∈ w.left then _ else w.own)
      rw [if_neg hG]
      exact he
  | leave email =>
    change (if email ∈ w.members then some _ else none) = some w' at hx
    split at hx
    · cases hx
      exact h.grow rfl rfl (fun _ he => he)
    · cases hx

/-! ## Runs -/

theorem owning_invariant (lib : Ext) (req : NamespacedName) :
    Invariant (memberLifecycle lib req) bookkeeping.protocol separate {} (fun _ => True)
      Owning where
  main := by
    show bookkeeping.protocol.wp (reconcile lib req >>= fun _ => pure ()) _ _
    rw [Protocol.wp_bind]
    exact follows_bookkeeping lib req
  env w w' e s? h hG hx := owning_env h hG hx
  start w h := by
    refine ⟨h.versions, fun t c ht hc => ?_, fun t x ht hx => ?_, fun t x ht hx => ?_⟩
    · cases ht
      cases hc
    · cases ht
      cases hx
    · cases ht
      cases hx
  step w w' s op rep r h ha hG hx := kept_call h ha hG hx
  finish w s h _ := ⟨h.versions, fun _ _ ht => (by cases ht), fun _ _ ht => (by cases ht),
    fun _ _ ht => (by cases ht)⟩
  crash w s h _ := ⟨h.versions, fun _ _ ht => (by cases ht), fun _ _ ht => (by cases ht),
    fun _ _ ht => (by cases ht)⟩

/-- A reconcile that is about to remove a member removes one of its own. -/
def RemovesOwn (c : MemberConf) : Prop :=
  ∀ conn id email k, c.running = some (.call (.api conn (.removeMember id email)) k) →
    email ∈ c.world.own

/-- **The operator removes only its own members, along separate runs.** -/
theorem removes_own_members (lib : Ext) (req : NamespacedName) (cr : LiteLLMTeam)
    (members : List String) (hmixed : Mixed cr.spec) (hcrd : cr.status.crdMembers = [])
    (c : MemberConf)
    (hr : (memberLifecycle lib req).Reaches separate ⟨.initial cr members, none⟩ c) :
    RemovesOwn c := by
  have hinit : Invariant.Holds bookkeeping.protocol (fun _ => True) Owning
      (⟨.initial cr members, none⟩ : MemberConf) := by
    refine ⟨fun v hv => ?_, fun _ _ ht => (by cases ht), fun _ _ ht => (by cases ht),
      fun _ _ ht => (by cases ht)⟩
    rw [List.mem_singleton.mp hv]
    refine ⟨hmixed, fun e he => ?_⟩
    unfold crdEmails at he
    rw [hcrd] at he
    cases he
  intro conn id email k hop
  obtain ⟨s, hs, c', x, -, hx, hcall⟩ := (owning_invariant lib req).reach_issued hinit hr hop
  exact hs.own s x rfl hx email hcall

end Team

/-! ## A member of both -/

namespace Sample

def alice : TeamMember := { email := "alice", role := "user" }

def memberServed (emails : List String) : (req : TeamApi) → Option (Service.Result req)
  | .listMembers _ => some (show List TeamMemberInfo from
      emails.map (fun e => { email := e, role := "user" }))
  | req => teamServed req

def memberCreated : List (Action (Reply TeamApi) MemberEnv) :=
  [.start, .step (.cached 0), .step .done, .step (.found found), .step (.found found),
    .step (.fail teamMissing), .step (.served teamServed none), .step .done, .step .done,
    .step (.served (memberServed []) none), .step (.served teamServed none), .step .done]

/-- A reconcile of the team, up to the listing of its members. -/
def memberListed (emails : List String) : List (Action (Reply TeamApi) MemberEnv) :=
  [.start, .step (.cached 0), .step (.found found), .step (.found found),
    .step (.served (memberServed emails) none)]

/-- Others add a member, the spec lists the member too, and then no more. -/
def memberShared : List (Action (Reply TeamApi) MemberEnv) :=
  memberCreated ++ [.env (.join "alice"), .env (.edit [alice])] ++ memberListed ["alice"] ++
    [.step (.served teamServed none), .step .done, .env (.edit [])] ++ memberListed ["alice"]

/-- The operator adds a member, which the spec then lists no more. -/
def memberOwned : List (Action (Reply TeamApi) MemberEnv) :=
  memberCreated ++ [.env (.edit [alice])] ++ memberListed [] ++
    [.step (.served teamServed none), .step (.served teamServed none), .step .done,
      .env (.edit [])] ++ memberListed ["alice"]

/-- The member that is about to be removed, and whether the operator added it. -/
def removing (c : MemberConf) : Option (String × Bool) :=
  match c.running with
  | some (.call (.api _ (.removeMember _ email)) _) =>
    some (email, decide (email ∈ c.world.own))
  | _ => none

theorem removing_eq_some {c : MemberConf} {email : String} {b : Bool}
    (h : removing c = some (email, b)) :
    ∃ conn id k, c.running = some (.call (.api conn (.removeMember id email)) k) ∧
      b = decide (email ∈ c.world.own) := by
  unfold removing at h
  split at h
  · rename_i hrun
    cases h
    exact ⟨_, _, _, hrun, rfl⟩
  · cases h

end Sample

namespace Team

instance : separate.Decides where
  env w e := by
    unfold separate
    rcases e with _ | _ <;> infer_instance
  reply w op rep := by
    unfold separate
    cases op with
    | api conn req =>
      cases req with
      | listMembers _ => rcases rep with _ | _ <;> infer_instance
      | addMember _ _ _ =>
        cases rep with
        | served _ lost => rcases lost with _ | _ <;> infer_instance
        | _ => infer_instance
      | _ => infer_instance
    | _ => infer_instance
  crash _ := .isTrue trivial

/-- A member that the operator has added. -/
theorem removes_own_members_dropped :
    ∃ c, (memberLifecycle Sample.lib ⟨"apps", "team"⟩).Reaches separate
        ⟨.initial Sample.team [], none⟩ c ∧ Sample.removing c = some ("alice", true) ∧
      RemovesOwn c := by
  have hrun : ((memberLifecycle Sample.lib ⟨"apps", "team"⟩).run separate
      ⟨.initial Sample.team [], none⟩ Sample.memberOwned).any
        (fun c => Sample.removing c = some ("alice", true)) = true := by
    decide +kernel
  obtain ⟨c, hc, hrem⟩ := (Option.any_eq_true _ _).mp hrun
  have hr := Machine.reaches_of_run _ _ (.refl _) hc
  exact ⟨c, hr, of_decide_eq_true hrem,
    removes_own_members Sample.lib ⟨"apps", "team"⟩ Sample.team [] (.inl rfl) rfl c hr⟩

/-- **The operator removes a member that others have added.** Others add a member, the spec lists
the same member for a while, and then no more. No call fails. -/
theorem removes_others_member :
    ¬ ∀ (lib : Ext) (req : NamespacedName) (cr : LiteLLMTeam) (members : List String),
      Mixed cr.spec → cr.status.crdMembers = [] → ∀ c : MemberConf,
      (memberLifecycle lib req).Reaches Guard.free ⟨.initial cr members, none⟩ c →
      RemovesOwn c := by
  intro hall
  have hrun : ((memberLifecycle Sample.lib ⟨"apps", "team"⟩).run Guard.free
      ⟨.initial Sample.team [], none⟩ Sample.memberShared).any
        (fun c => Sample.removing c = some ("alice", false)) = true := by
    decide +kernel
  obtain ⟨c, hc, hrem⟩ := (Option.any_eq_true _ _).mp hrun
  obtain ⟨conn, id, k, hop, hown⟩ := Sample.removing_eq_some (of_decide_eq_true hrem)
  have hr := Machine.reaches_of_run _ _ (.refl _) hc
  exact of_decide_eq_false hown.symm
    (hall Sample.lib ⟨"apps", "team"⟩ Sample.team [] (.inl rfl) rfl c hr conn id "alice" k hop)

end Team

end LitellmOperator
