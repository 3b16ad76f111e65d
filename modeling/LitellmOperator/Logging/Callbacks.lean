import LitellmOperator.Pass.Kinds
import LitellmOperator.Record.Basic

/-! # The logging callbacks of a team

A reconcile sets each callback of `spec.logging.callbacks`, and it removes callbacks only all at
once, when logging is disabled or the list is empty. So a callback that is dropped from a list which
stays non-empty stays in LiteLLM (`dropped_callback_stays`). After any number of specs the callbacks
are those of the last one exactly if no other was set since all were last removed
(`callbacks_follow_iff`).
-/

set_option autoImplicit false

namespace LitellmOperator

open Effect Protocol Go Kube Ctl Scene Record

namespace Team

/-! ## What LiteLLM stores -/

/-- The type of a callback, and its variables. -/
abbrev Callback : Type := String × (String → Option String)

/-- The callbacks of a team, by name. -/
abbrev Callbacks : Type := String → Option Callback

/-- The callbacks of each team after the requests carried out, newest first. Setting a callback
inserts or replaces the one of that name, and disabling logging removes all. -/
def callbacks (start : Obj → Callbacks) : List (Served TeamApi) → Obj → Callbacks
  | [], o => start o
  | ⟨key, .setCallback id req, _⟩ :: log, o => fun name =>
    if o = (key, id) ∧ name = req.callbackName then
      some (req.callbackType, req.callbackVars.get?)
    else callbacks start log o name
  | ⟨key, .disableLogging id, _⟩ :: log, o => fun name =>
    if o = (key, id) then none else callbacks start log o name
  | _ :: log, o => callbacks start log o

/-- A request that is not about callbacks. -/
def Uncalled (req : TeamApi) : Prop :=
  ∀ start key a log, callbacks start (⟨key, req, a⟩ :: log) = callbacks start log

theorem callbacks_append {start : Obj → Callbacks} {l log : List (Served TeamApi)}
    (h : ∀ s ∈ l, Uncalled s.req) : callbacks start (l ++ log) = callbacks start log := by
  induction l with
  | nil => rfl
  | cons s l ih =>
    obtain ⟨hs, hl⟩ := List.forall_mem_cons.mp h
    obtain ⟨key, req, a⟩ := s
    exact (hs start key a (l ++ log)).trans (ih hl)

theorem uncalled_of_settling (req : TeamApi) (h : Settling req) : Uncalled req := by
  intro start key a log
  funext o
  cases req <;> first | rfl | exact h.elim

theorem uncalled_of_members (req : TeamApi) (h : ofMembers req) : Uncalled req := by
  intro start key a log
  funext o
  cases req <;> first | rfl | exact h.elim

theorem callbacks_of_beside {start : Obj → Callbacks} {N : TeamApi → Prop}
    {τ τ' : TeamScene} (hN : ∀ req, N req → Uncalled req)
    (h : Beside N τ τ') : callbacks start τ'.log = callbacks start τ.log := by
  obtain ⟨l, hl, hall⟩ := h.log
  rw [hl]
  exact callbacks_append (fun s hs => hN s.req (hall s hs))

/-! ## What the spec declares -/

/-- The data of the Secret that a callback refers to. -/
def secretData (E : TeamPass) (ns : String) (cb : TeamCallback) : StrMap String :=
  match E.cluster (.getSecret ⟨ns, cb.credentialsSecretRef.name⟩) with
  | .ok secret => (show Secret from secret).data
  | .error _ => []

/-- The callback as the spec and its Secret give it: its type, for which there is a default, and the
inline variables over those of the Secret. -/
def callbackOf (E : TeamPass) (ns : String) (cb : TeamCallback) : Callback :=
  (if cb.type = "" then "success_and_failure" else cb.type,
    fun k => (List.lookup k cb.config.reverse).or ((secretData E ns cb).get? k))

/-- The callbacks of a list; of those with one name the last counts. -/
def listed (E : TeamPass) (ns : String) (cbs : List TeamCallback) : Callbacks :=
  fun name => (cbs.reverse.find? (fun cb => cb.name = name)).map (callbackOf E ns)

/-- Logging is disabled, or the list is empty. -/
def removesAll (logging : TeamLoggingSpec) : Bool := logging.disabled || logging.callbacks.isEmpty

/-- The callbacks that the spec declares. -/
def declared (E : TeamPass) (ns : String) (logging : TeamLoggingSpec) : Callbacks :=
  if removesAll logging then fun _ => none else listed E ns logging.callbacks

/-- What a reconcile does to the callbacks. -/
def sweepOf (E : TeamPass) (ns : String) (logging : TeamLoggingSpec) : Sweep String Callback :=
  if removesAll logging then .clear else .put (listed E ns logging.callbacks)

variable (E : TeamPass) (ns : String)

theorem target_sweepOf (logging : TeamLoggingSpec) :
    (sweepOf E ns logging).target = declared E ns logging := by
  unfold sweepOf declared
  split <;> rfl

theorem isPut_sweepOf (logging : TeamLoggingSpec) :
    (sweepOf E ns logging).isPut = !removesAll logging := by
  unfold sweepOf
  cases removesAll logging <;> rfl

theorem listed_cons (cb : TeamCallback) (cbs : List TeamCallback) (name : String) :
    listed E ns (cb :: cbs) name =
      (listed E ns cbs name).or (if name = cb.name then some (callbackOf E ns cb) else none) := by
  unfold listed
  rw [List.reverse_cons, List.find?_append]
  cases cbs.reverse.find? (fun cb => cb.name = name) with
  | some found => rfl
  | none =>
    by_cases h : name = cb.name
    · simp [h]
    · simp [h, Ne.symm h]

theorem listed_eq_none_iff (cbs : List TeamCallback) (name : String) :
    listed E ns cbs name = none ↔ name ∉ cbs.map (·.name) := by
  unfold listed
  rw [Option.map_eq_none_iff, List.find?_eq_none]
  simp

variable {lib : Ext} {home : String} {conn : ResolvedInstance} {cr team : LiteLLMTeam}
variable {E : TeamPass} {start : Obj → Callbacks} {o : Obj}
variable {σ τ τ' τ'' : TeamScene}

/-! ## One reconcile -/

/-- Between the two scenes one write was made over the callbacks of a team, and none over those of
other teams. -/
structure Wrote (start : Obj → Callbacks) (o : Obj) (w : Sweep String Callback)
    (τ τ' : TeamScene) : Prop where
  written : callbacks start τ'.log o = w.apply (callbacks start τ.log o)
  others : ∀ o', o' ≠ o → callbacks start τ'.log o' = callbacks start τ.log o'

theorem Wrote.congr {w : Sweep String Callback} (h : Wrote start o w τ τ')
    (hbefore : callbacks start τ.log = callbacks start σ.log)
    (hafter : callbacks start τ''.log = callbacks start τ'.log) : Wrote start o w σ τ'' := by
  constructor
  · rw [hafter, ← hbefore]
    exact h.written
  · intro o' ho'
    rw [hafter, ← hbefore]
    exact h.others o' ho'

variable {key : NamespacedName}

theorem wrote_set {id : String} {req : TeamCallbackRequest}
    {a : Service.Result (TeamApi.setCallback id req)} {cs : Callbacks}
    (hcs : ∀ name, cs name = if name = req.callbackName then some (req.callbackType,
      req.callbackVars.get?) else none)
    (hlog : τ'.log = ⟨key, .setCallback id req, a⟩ :: τ.log) :
    Wrote start (key, id) (.put cs) τ τ' := by
  have hat : ∀ o name, callbacks start τ'.log o name =
      if o = (key, id) ∧ name = req.callbackName then
        some (req.callbackType, req.callbackVars.get?)
      else callbacks start τ.log o name := by
    rw [hlog]
    exact fun _ _ => rfl
  constructor
  · funext name
    show _ = (cs name).or (callbacks start τ.log (key, id) name)
    rw [hat, hcs]
    by_cases hname : name = req.callbackName
    · rw [if_pos ⟨rfl, hname⟩, if_pos hname]
      rfl
    · rw [if_neg (fun h => hname h.2), if_neg hname]
      rfl
  · intro o' ho'
    funext name
    rw [hat, if_neg (fun h => ho' h.1)]

theorem wrote_disable {id : String} {a : Service.Result (TeamApi.disableLogging id)}
    (hlog : τ'.log = ⟨key, .disableLogging id, a⟩ :: τ.log) :
    Wrote start (key, id) .clear τ τ' := by
  have hat : ∀ o name, callbacks start τ'.log o name =
      if o = (key, id) then none else callbacks start τ.log o name := by
    rw [hlog]
    exact fun _ _ => rfl
  constructor
  · funext name
    rw [hat, if_pos rfl]
    rfl
  · intro o' ho'
    funext name
    rw [hat, if_neg ho']

/-- Of two callbacks that are set one after the other the later counts. -/
theorem Wrote.put_put {m m' : Callbacks} (h : Wrote start o (.put m) τ τ')
    (h' : Wrote start o (.put m') τ' τ'') :
    Wrote start o (.put (fun name => (m' name).or (m name))) τ τ'' := by
  constructor
  · rw [h'.written, h.written]
    funext name
    exact (Option.or_assoc).symm
  · intro o' ho'
    rw [h'.others o' ho', h.others o' ho']

/-- The team that the requests of a reconcile are about. -/
def objectOf (conn : ResolvedInstance) (team : LiteLLMTeam) : Obj :=
  (conn.inst.metadata.key, team.status.litellmTeamID)

variable (start) in
theorem wpE_setCallback_wrote (cb : TeamCallback) :
    (E.rules kind lib home).wpE (setCallback conn team cb)
      (fun _ τ' => τ'.world.store = τ.world.store ∧ Wrote start (objectOf conn team)
        (.put (listed E team.metadata.ns [cb])) τ τ') (fun _ _ => True) τ := by
  unfold setCallback
  rw [wpE_bind, wpE_orFail]
  unfold readCallbackCredentials
  refine wp_mono (show (E.rules kind lib home).wpE _ (fun vars τ₁ => Quiet τ τ₁ ∧
    ∀ k, vars.get? k = (callbackOf E team.metadata.ns cb).2 k) (fun _ _ => True) τ from ?_)
    (fun r τ₁ h₁ => ?_)
  · rw [wpE_bind, wpE_orFail]
    refine Pass.wp_read (fun τ₁ hq => ?_)
    rcases hread : E.cluster (.getSecret ⟨team.metadata.ns, cb.credentialsSecretRef.name⟩) with e | secret
    · trivial
    refine ⟨hq, fun k => ?_⟩
    unfold callbackOf secretData
    rw [hread]
    exact StrMap.get?_foldl_set _ _ k
  · rcases r with e | vars
    · trivial
    obtain ⟨hq, hvars⟩ := h₁
    dsimp only
    rw [wpE_bind, wpE_orFail]
    refine Pass.wp_api (fun _ τ₂ _ hc => ?_) (fun _ _ _ _ => trivial)
    refine ⟨hc.store.trans hq.store, wrote_set (fun name => ?_) (hq.log ▸ hc.log)⟩
    rw [listed_cons]
    have hcallback : callbackOf E team.metadata.ns cb =
        (if cb.type = "" then "success_and_failure" else cb.type, vars.get?) :=
      Prod.ext rfl (funext (fun k => (hvars k).symm))
    rw [hcallback]
    rfl

theorem wpE_setCallbacks_wrote (cbs : List TeamCallback) :
    (E.rules kind lib home).wpE (cbs.forM (setCallback conn team))
      (fun _ τ' => τ'.world.store = τ.world.store ∧ Wrote start (objectOf conn team)
        (.put (listed E team.metadata.ns cbs)) τ τ') (fun _ _ => True) τ := by
  induction cbs generalizing τ with
  | nil => exact ⟨rfl, rfl, fun _ _ => rfl⟩
  | cons cb cbs ih =>
    show (E.rules kind lib home).wpE (setCallback conn team cb >>= fun _ => cbs.forM _) _ _ τ
    rw [wpE_bind]
    refine wpE_post (wpE_setCallback_wrote start cb) (fun _ τ₁ h₁ => ?_)
    refine wpE_post ih (fun _ τ₂ h₂ => ⟨h₂.1.trans h₁.1, ?_⟩)
    have hcons : listed E team.metadata.ns (cb :: cbs) = fun name =>
        (listed E team.metadata.ns cbs name).or (listed E team.metadata.ns [cb] name) := by
      funext name
      rw [listed_cons, listed_cons]
      rfl
    rw [hcons]
    exact h₁.2.put_put h₂.2

theorem wpE_disableLogging_wrote (pre : String) (disabled : Bool) : (E.rules kind lib home).wpE (do
        let _ ← orFail (api conn (TeamApi.disableLogging team.status.litellmTeamID)) (wrapf pre)
        pure { team with status.loggingDisabled := disabled, status.loggingSynced := true })
      (fun team' τ' => SameButLogging team team' ∧ τ'.world.store = τ.world.store ∧
        Wrote start (objectOf conn team) .clear τ τ') (fun _ _ => True) τ := by
  simp only [wpE_bind, wpE_orFail]
  exact Pass.wp_api (fun _ τ₁ _ hc => ⟨⟨_, _, rfl⟩, hc.store, wrote_disable hc.log⟩)
    (fun _ _ _ _ => trivial)

variable (start) in
/-- **Logging.** If it returns, the callbacks of the list are set, or all are removed. -/
theorem wpE_reconcileLogging_wrote {logging : TeamLoggingSpec}
    (hspec : team.spec.logging = some logging) :
    (E.rules kind lib home).wpE (reconcileLogging conn team)
      (fun team' τ' => SameButLogging team team' ∧ τ'.world.store = τ.world.store ∧
        Wrote start (objectOf conn team) (sweepOf E team.metadata.ns logging) τ τ')
      (fun _ _ => True) τ := by
  unfold reconcileLogging sweepOf removesAll
  rw [hspec]
  dsimp only
  by_cases hdis : logging.disabled = true
  · rw [if_pos hdis, hdis]
    exact wpE_disableLogging_wrote _ _
  · rw [if_neg hdis, Bool.eq_false_iff.mpr hdis, Bool.false_or]
    by_cases hempty : logging.callbacks.isEmpty = true
    · rw [if_pos hempty, if_pos hempty]
      exact wpE_disableLogging_wrote _ _
    · rw [if_neg hempty, if_neg hempty, wpE_bind]
      exact wpE_post (wpE_setCallbacks_wrote logging.callbacks) (fun _ τ₁ h₁ => ⟨⟨_, _, rfl⟩, h₁⟩)

/-- The copy `v` of a resource can be reported, and is bound to a team over whose callbacks one
write was made since the scene `σ`. -/
structure Called (start : Obj → Callbacks) (w : Sweep String Callback) (conn : ResolvedInstance)
    (cr : LiteLLMTeam) (σ τ : TeamScene)
    (v c : LiteLLMTeam) : Prop where
  stored : Keeps (fun _ => ()) cr c
  bound : v.status.litellmTeamID ≠ ""
  same : cr.status.litellmTeamID ≠ "" → v.status.litellmTeamID = cr.status.litellmTeamID
  wrote : Wrote start (objectOf conn v) w σ τ

variable (start) in
theorem wpE_finishTeam_called {logging : TeamLoggingSpec} (h : Settled cr σ τ team)
    (hbound : team.status.litellmTeamID ≠ "") (hspec : cr.spec.logging = some logging) :
    (E.rules kind lib home).wpE (finishTeam conn team)
      (fun out τ' => ∃ c, τ'.Now c ∧ out.1.rv = c.rv ∧ c.metadata.deleting = false ∧
        Called start (sweepOf E cr.metadata.ns logging) conn cr σ τ' out.1 c)
      (fun _ _ => True) τ := by
  obtain ⟨c, hnow, hrv, hc⟩ := h.stored
  have hsettled : callbacks start τ.log = callbacks start σ.log := by
    obtain ⟨l, hl, hall⟩ := h.log
    rw [hl]
    exact callbacks_append (fun s hs => uncalled_of_settling s.req (hall s hs))
  unfold finishTeam
  rw [wpE_bind, wpE_orFail]
  refine wp_mono wpE_reconcileMembers_beside (fun r τ₁ h₁ => ?_)
  rcases r with e | team₁
  · trivial
  obtain ⟨⟨st, rfl, hst⟩, hb₁⟩ := h₁
  have hspec₁ : (team.withStatus st).spec.logging = some logging := by
    rw [← hspec, ← h.copy.spec]
    rfl
  dsimp only
  rw [wpE_bind, wpE_orFail]
  refine wp_mono (wpE_reconcileLogging_wrote start hspec₁) (fun r τ₂ h₂ => ?_)
  rcases r with e | team₂
  · trivial
  obtain ⟨⟨synced, disabled, rfl⟩, hstore, hwrote⟩ := h₂
  dsimp only
  rw [wpE_bind, wpE_lift]
  refine Pass.wp_besideApi (N := Uncalled) (fun _ _ _ _ => rfl) (fun info τ₃ hb₃ => ?_)
  -- the status of the copy changes in other fields than the id
  have hid : (withInfo { team.withStatus st with
      status.loggingSynced := synced, status.loggingDisabled := disabled }
      info).status.litellmTeamID = team.status.litellmTeamID := by
    cases info <;> exact hst
  have hrv' : (withInfo { team.withStatus st with
      status.loggingSynced := synced, status.loggingDisabled := disabled } info).rv =
      c.rv := by
    cases info <;> exact hrv
  refine ⟨c, hb₃.now ?_, hrv', hc.live, ⟨hc.live, hc.ns, hc.spec, rfl⟩, ?_, ?_, ?_⟩
  · unfold Scene.Now
    rw [hstore]
    exact hb₁.now hnow
  · rw [hid]
    exact hbound
  · intro hcr
    rw [hid]
    exact h.id hcr
  · have hobj : objectOf conn (team.withStatus st) = objectOf conn (withInfo
        { team.withStatus st with
          status.loggingSynced := synced, status.loggingDisabled := disabled } info) :=
      Prod.ext rfl (hst.trans hid.symm)
    have hns : (team.withStatus st).metadata.ns = cr.metadata.ns := h.copy.ns
    rw [hobj, hns] at hwrote
    exact hwrote.congr ((callbacks_of_beside uncalled_of_members hb₁).trans hsettled)
      (callbacks_of_beside (fun _ h => h) hb₃)

variable (start) in
/-- **One reconcile.** After a success the resource is bound to a team, the same one as before if it
was bound, over whose callbacks one write was made. -/
theorem called_of_success {req : NamespacedName} {logging : TeamLoggingSpec} {r : LiteLLMTeam}
    (hE : Assigns E) (hnow : σ.Now cr) (hlive : cr.metadata.deleting = false)
    (hspec : cr.spec.logging = some logging)
    (hr : Pass.Success (controller lib) (Reconciler.done (R := .team) lib req σ E) r) :
    (Reconciler.done (R := .team) lib req σ E).Now r ∧ Keeps (fun _ => ()) cr r ∧
      r.status.litellmTeamID ≠ "" ∧
      (cr.status.litellmTeamID ≠ "" → r.status.litellmTeamID = cr.status.litellmTeamID) ∧
      Wrote start (kind.refKey cr, r.status.litellmTeamID) (sweepOf E cr.metadata.ns logging) σ
        (Reconciler.done (R := .team) lib req σ E) := by
  have hbody : ∀ conn v τ, Pass.resolved lib E (controller lib) cr = some (.ok conn) →
      Pass.Alike cr v → τ.Now v → Rest σ τ →
      (E.rules kind lib req.ns).wpE ((controller lib).body v conn)
        (fun out τ' => ∃ c, τ'.Now c ∧ out.1.rv = c.rv ∧ c.metadata.deleting = false ∧
          ∃ conn, conn.inst.metadata.key = kind.refKey cr ∧
            Called start (sweepOf E cr.metadata.ns logging) conn cr σ τ' out.1 c)
        (fun _ _ => True) τ := by
    intro conn v τ hres hv hnow' hrest
    have hkey : conn.inst.metadata.key = kind.refKey cr := Pass.key_of_readOff hres
    refine wpE_reconcileTeam_now hnow' (hv.deleting.trans hlive) (fun _ _ _ => trivial)
      (fun team τ₁ hsettled hbound => ?_)
    refine wpE_mono (wpE_finishTeam_called start hsettled (hbound hE)
      (by rw [hv.spec]; exact hspec)) (fun out τ₂ h₂ => ?_) (fun _ _ _ => trivial)
    obtain ⟨c, hc, hrv, hdel, hcalled⟩ := h₂
    refine ⟨c, hc, hrv, hdel, conn, hkey, ?_, hcalled.bound, ?_, ?_⟩
    · exact ⟨hcalled.stored.live, hcalled.stored.ns.trans hv.ns,
        hcalled.stored.spec.trans hv.spec, rfl⟩
    · rw [← hv.status]
      exact hcalled.same
    · rw [← hv.ns]
      exact hcalled.wrote.congr (by rw [hrest.log]) rfl
  obtain ⟨v, c, τ, ⟨conn, hkey, hcalled⟩, hst⟩ := Pass.of_success
    (P := fun v c τ' => ∃ conn, conn.inst.metadata.key = kind.refKey cr ∧
      Called start (sweepOf E cr.metadata.ns logging) conn cr σ τ' v c) hnow hlive
    (fun _ _ => rfl) hbody hr
  have hnow' := hst.now
  have hlog := hst.log
  obtain ⟨rv, gen, rfl⟩ := hst.stamped
  refine ⟨hnow', ⟨hcalled.stored.live, hcalled.stored.ns, hcalled.stored.spec, rfl⟩, hcalled.bound,
    hcalled.same, ?_⟩
  have hwrote := hcalled.wrote
  unfold objectOf at hwrote
  rw [hkey] at hwrote
  exact hwrote.congr rfl (congrArg (callbacks start) hlog)

/-! ## Specs that are reconciled in turn -/

/-- Logging is set in the spec, and LiteLLM gives a new team an id. -/
def Logged (p : Reconciler.team.Step) : Prop :=
  (∃ logging, LiteLLMTeamSpec.logging p.1 = some logging) ∧ Assigns p.2

/-- The instance that a spec refers to. -/
def instanceOf (ns : String) (spec : LiteLLMTeamSpec) : NamespacedName :=
  kind.refKey (bare ns spec {})

/-- The logging specs that were reconciled with one instance, newest first, and what each reconcile
met. -/
def loggedAt (ns : String) (key : NamespacedName) (ps : List Reconciler.team.Step) :
    List (TeamLoggingSpec × TeamPass) :=
  ps.filterMap (fun p => if instanceOf ns p.1 = key then
    (LiteLLMTeamSpec.logging p.1).map (fun logging => (logging, p.2)) else none)

/-- What was written over the callbacks of the team in this instance. -/
def writes (ns : String) (key : NamespacedName) (ps : List Reconciler.team.Step) :
    List (Sweep String Callback) :=
  (loggedAt ns key ps).map (fun q => sweepOf q.2 ns q.1)

theorem loggedAt_cons {ns : String} {p : Reconciler.team.Step} {ps : List Reconciler.team.Step}
    {logging : TeamLoggingSpec} (h : LiteLLMTeamSpec.logging p.1 = some logging) :
    loggedAt ns key (p :: ps) =
      if instanceOf ns p.1 = key then (logging, p.2) :: loggedAt ns key ps
      else loggedAt ns key ps := by
  unfold loggedAt
  rw [List.filterMap_cons, h]
  by_cases hkey : instanceOf ns p.1 = key <;> simp [hkey]

/-- The team is bound once there was a reconcile, and its callbacks are what was written over those
it had at first. -/
structure Followed (start : Obj → Callbacks) (cr : LiteLLMTeam) (ps : List Reconciler.team.Step)
    (σ : Reconciler.team.RScene) (v : LiteLLMTeam) : Prop where
  now : σ.Now v
  live : v.metadata.deleting = false
  ns : v.metadata.ns = cr.metadata.ns
  spec : ∀ p, ps.head? = some p → v.spec = p.1
  bound : ps ≠ [] → v.status.litellmTeamID ≠ ""
  followed : ∀ key id, (ps ≠ [] → id = v.status.litellmTeamID) → callbacks start σ.log (key, id) =
    swept (start (key, id)) (writes cr.metadata.ns key ps)

theorem followed_of_succession {req : NamespacedName} {ps : List Reconciler.team.Step}
    {σ : Reconciler.team.RScene} (start : Obj → Callbacks) (hlive : cr.metadata.deleting = false)
    (h : Reconciler.Succession lib req (controller lib) cr Logged ps σ) :
    ∃ v, Followed start cr ps σ v := by
  induction h with
  | start =>
    exact ⟨cr, rfl, hlive, rfl, fun _ h => (by cases h), fun h => absurd rfl h, fun _ _ _ => rfl⟩
  | @next ps p σ τ r _ hedit hp hr ih =>
    obtain ⟨v, hv⟩ := ih
    obtain ⟨⟨logging, hlogging⟩, hE⟩ := hp
    obtain ⟨⟨rv, gen, hnow⟩, htrace⟩ := Reconciler.now_of_edit hv.now hv.live hedit
    have hlog : τ.log = σ.log := congrArg (List.filterMap Served.of) htrace
    obtain ⟨hnow', hkeeps, hbound, hsame, hwrote⟩ := called_of_success start hE hnow
      hv.live hlogging hr
    refine ⟨r, hnow', hkeeps.live, hkeeps.ns.trans hv.ns, ?_, fun _ => hbound, fun key id hid => ?_⟩
    · rintro _ ⟨⟩
      exact hkeeps.spec
    · obtain rfl : id = r.status.litellmTeamID := hid (List.cons_ne_nil _ _)
      -- the id is that of the reconcile before, if there was one
      have hbefore := hv.followed key r.status.litellmTeamID (fun hps => hsame (hv.bound hps))
      have hinst : kind.refKey (Resource.stamp { v with spec := p.1 } rv gen) =
          instanceOf cr.metadata.ns p.1 := by
        rw [← hv.ns]
        rfl
      rw [hinst] at hwrote
      have hns : (Resource.stamp { v with spec := p.1 } rv gen).metadata.ns =
          cr.metadata.ns := hv.ns
      rw [hns] at hwrote
      unfold writes
      rw [loggedAt_cons hlogging]
      by_cases hkey : instanceOf cr.metadata.ns p.1 = key
      · rw [if_pos hkey, ← hkey, hwrote.written, hlog, hkey, hbefore]
        rfl
      · rw [if_neg hkey, hwrote.others _ (fun h => hkey (congrArg Prod.fst h).symm), hlog]
        exact hbefore

/-- No callback but those of the list was set since all were last removed, or at first. -/
def NothingLeft (start : Callbacks) (earlier : List (TeamLoggingSpec × TeamPass))
    (logging : TeamLoggingSpec) : Prop :=
  removesAll logging = false → ∀ name ∉ logging.callbacks.map (·.name),
    (∀ q ∈ earlier.takeWhile (fun q => !removesAll q.1), name ∉ q.1.callbacks.map (·.name)) ∧
      (earlier.all (fun q => !removesAll q.1) = true → start name = none)

theorem nothingLeft_iff (cs : Callbacks) (ns : String) (earlier : List (TeamLoggingSpec × TeamPass))
    (logging : TeamLoggingSpec) :
    NothingLeft cs earlier logging ↔ ((sweepOf E ns logging).isPut = true → ∀ name,
      (sweepOf E ns logging).target name = none →
        swept cs (earlier.map (fun q => sweepOf q.2 ns q.1)) name = none) := by
  have htarget : ∀ (E : TeamPass) (l : TeamLoggingSpec) (name : String), removesAll l = false →
      ((sweepOf E ns l).target name = none ↔ name ∉ l.callbacks.map (·.name)) := by
    intro E l name hl
    rw [target_sweepOf]
    unfold declared
    rw [hl]
    exact listed_eq_none_iff E ns _ name
  have hput : (Sweep.isPut ∘ fun q : TeamLoggingSpec × TeamPass => sweepOf q.2 ns q.1) =
      fun q => !removesAll q.1 := funext (fun q => isPut_sweepOf q.2 ns q.1)
  rw [isPut_sweepOf, Bool.not_eq_true']
  refine imp_congr_right (fun hlogging => forall_congr' (fun name => ?_))
  rw [htarget E logging name hlogging]
  refine imp_congr_right (fun _ => ?_)
  rw [swept_eq_none_iff, List.takeWhile_map, List.all_map, List.forall_mem_map, hput]
  refine and_congr_left (fun _ => forall₂_congr (fun q hq => ?_))
  have hq' := List.mem_takeWhile_imp hq
  exact (htarget q.2 q.1 name (by simpa using hq')).symm

/-- **When the callbacks follow the spec.** Whatever specs a team has gone through, each reconciled
with success, its callbacks are those that the last one declares exactly if every other callback
that it had at first, or that an earlier spec has set there, was removed since with all the others,
or the last spec itself removes all. -/
theorem callbacks_follow_iff (lib : Ext) (req : NamespacedName) (start : Obj → Callbacks)
    (cr v : LiteLLMTeam) (p : Reconciler.team.Step) (ps : List Reconciler.team.Step)
    (σ : Reconciler.team.RScene) (logging : TeamLoggingSpec) (hlive : cr.metadata.deleting = false)
    (h : Reconciler.Succession lib req (controller lib) cr Logged (p :: ps) σ) (hnow : σ.Now v)
    (hlogging : LiteLLMTeamSpec.logging p.1 = some logging) :
    callbacks start σ.log (kind.refKey v, v.status.litellmTeamID) =
        declared p.2 cr.metadata.ns logging ↔
      NothingLeft (start (instanceOf cr.metadata.ns p.1, v.status.litellmTeamID))
        (loggedAt cr.metadata.ns (instanceOf cr.metadata.ns p.1) ps) logging := by
  obtain ⟨v', hv⟩ := followed_of_succession start hlive h
  obtain rfl : v' = v := Option.some.inj (hv.now.symm.trans hnow)
  have hinst : kind.refKey v' = instanceOf cr.metadata.ns p.1 := by
    rw [← hv.ns, ← hv.spec p rfl]
    rfl
  rw [hinst, hv.followed _ _ (fun _ => rfl), nothingLeft_iff (E := p.2) _ cr.metadata.ns,
    ← target_sweepOf]
  unfold writes
  rw [loggedAt_cons hlogging, if_pos rfl, List.map_cons]
  exact swept_eq_target_iff _ _ _

end Team

/-! ## A callback that is dropped -/

namespace Sample

/-- A team that logs to the given callbacks. -/
def loggingTo (names : List String) : LiteLLMTeamSpec :=
  { team.spec with logging := some { callbacks := names.map (fun name =>
      { name := name, credentialsSecretRef := { name := "credentials" } }) } }

/-- LiteLLM carries out every request, and a new team gets an id. -/
def assigning : Reconciler.team.RPass := pass (fun _ => none) (fun req => match req with
    | .create _ => some (show TeamCreateResponse from ⟨"team-1", "team"⟩)
    | req => teamServed req)

theorem assigns_assigning : Team.Assigns assigning := by
  rintro τ conn body _ ⟨⟩
  decide

variable (lists : List (List String))

/-- The team logs to each list of callbacks in turn; newest first. -/
def loggingSteps : List Reconciler.team.Step :=
  lists.map (fun names => (loggingTo names, assigning))

theorem logged_loggingSteps : ∀ p ∈ loggingSteps lists, Team.Logged p := by
  intro p hp
  obtain ⟨names, -, rfl⟩ := List.mem_map.mp hp
  exact ⟨⟨_, rfl⟩, assigns_assigning⟩

/-- The scene after them. -/
def loggingScene : Option Reconciler.team.RScene :=
  Reconciler.succeed lib ⟨"apps", "team"⟩ (Team.controller lib) team (loggingSteps lists)

end Sample

namespace Team

/-- A callback is added to the list. -/
theorem callbacks_follow_added :
    ∃ σ v, Sample.loggingScene [["langfuse", "otel"], ["langfuse"]] = some σ ∧ σ.Now v ∧
      callbacks (fun _ _ => none) σ.log (kind.refKey v, v.status.litellmTeamID) =
        declared Sample.assigning "apps"
          { callbacks := ["langfuse", "otel"].map (fun name =>
              { name := name, credentialsSecretRef := { name := "credentials" } }) } := by
  refine ⟨_, _, rfl, rfl, ?_⟩
  refine (callbacks_follow_iff Sample.lib ⟨"apps", "team"⟩ (fun _ _ => none) Sample.team _
    (Sample.loggingTo ["langfuse", "otel"], Sample.assigning)
    (Sample.loggingSteps [["langfuse"]]) _ _ rfl (Reconciler.succession_of_succeed
      (Sample.logged_loggingSteps [["langfuse", "otel"], ["langfuse"]]) rfl) rfl rfl).mpr ?_
  intro _ name hname
  refine ⟨fun q hq hin => hname ?_, fun _ => rfl⟩
  obtain rfl := List.mem_singleton.mp hq
  exact List.mem_cons.mpr (.inl (List.mem_singleton.mp hin))

/-- **A callback that is dropped stays.** The list is `langfuse`, and then `otel`; everything
succeeds. -/
theorem dropped_callback_stays :
    ¬ ∀ (lib : Ext) (req : NamespacedName) (start : Obj → Callbacks) (cr v : LiteLLMTeam)
      (p : Reconciler.team.Step) (ps : List Reconciler.team.Step) (σ : Reconciler.team.RScene)
      (logging : TeamLoggingSpec), cr.metadata.deleting = false → (∀ o name, start o name = none) →
      Reconciler.Succession lib req (controller lib) cr Logged (p :: ps) σ → σ.Now v →
      LiteLLMTeamSpec.logging p.1 = some logging →
      callbacks start σ.log (kind.refKey v, v.status.litellmTeamID) =
        declared p.2 cr.metadata.ns logging := by
  intro hall
  have hfollow := hall Sample.lib ⟨"apps", "team"⟩ (fun _ _ => none) Sample.team _
    (Sample.loggingTo ["otel"], Sample.assigning) (Sample.loggingSteps [["langfuse"]]) _ _ rfl
    (fun _ _ => rfl) (Reconciler.succession_of_succeed
      (Sample.logged_loggingSteps [["otel"], ["langfuse"]]) rfl) rfl rfl
  have hnone := congrArg Option.isSome (congrFun hfollow "langfuse")
  exact absurd hnone (by decide +kernel)

end Team

end LitellmOperator
