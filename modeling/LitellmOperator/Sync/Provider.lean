import LitellmOperator.Pass.Kinds
import LitellmOperator.Record.Basic

/-! # The provider's settings of a model

LiteLLM stores the non-empty settings of a create, and an update cannot clear one: it overwrites
the settings its body has and keeps the others. The controller deletes a model and creates it anew
when its auth mode changes, and updates it otherwise. So a setting that is dropped from the spec
without a change of the auth mode stays behind (`provider_settings_stale`); what is stored is that
of the last spec exactly if no such setting was ever dropped (`provider_settings_current_iff`).
-/

set_option autoImplicit false

namespace LitellmOperator

open Effect Protocol Go Kube Ctl Scene

/-- The settings of a provider; an empty one is left out of a body. -/
inductive ProviderField where
  | apiBase
  | apiVersion
  | apiKey
  | vertexCredentials
  | litellmCredentialName
  deriving DecidableEq

abbrev Provider : Type := ProviderField → String

def ModelParams.provider (params : ModelParams) : Provider
  | .apiBase => params.apiBase
  | .apiVersion => params.apiVersion
  | .apiKey => params.apiKey
  | .vertexCredentials => params.vertexCredentials
  | .litellmCredentialName => params.litellmCredentialName

namespace Model

/-! ## What LiteLLM stores -/

/-- The models that LiteLLM has, with the settings it stores of each. -/
abbrev Stock : Type := Obj → Option Provider

/-- What a request that is carried out does to the models. -/
def Stock.serve (s : Stock) : Served ModelApi → Stock
  | ⟨key, .create body, resp⟩ =>
    Function.update s (key, (show ModelCreateResponse from resp).modelID)
      (some body.litellmParams.provider)
  | ⟨key, .update body, _⟩ =>
    Function.update s (key, body.modelID)
      ((s (key, body.modelID)).map (fun x => Record.overlay "" x body.litellmParams.provider))
  | ⟨key, .delete id, _⟩ => Function.update s (key, id) none
  | ⟨_, .check, _⟩ => s

def stock (log : List (Served ModelApi)) : Stock := log.foldr (fun r s => s.serve r) (fun _ => none)

theorem stock_cons (r : Served ModelApi) (log : List (Served ModelApi)) :
    stock (r :: log) = (stock log).serve r := rfl

/-- LiteLLM gives a new model an id, and updates and deletes only models that it has. -/
structure Truthful (E : ModelPass) : Prop where
  create : ∀ τ conn body resp, E.serve τ conn (.create body) = .ok resp →
    (show ModelCreateResponse from resp).modelID ≠ ""
  update : ∀ τ conn body a, E.serve τ conn (.update body) = .ok a →
    (stock τ.log (conn.inst.metadata.key, body.modelID)).isSome = true
  delete : ∀ τ conn id a, E.serve τ conn (.delete id) = .ok a →
    (stock τ.log (conn.inst.metadata.key, id)).isSome = true

variable {lib : Ext} {home : String} {params : ModelParams} {hash mode : String}
variable {E : ModelPass}
variable {σ τ : ModelScene}
variable {cr model : LiteLLMModel} {conn : ResolvedInstance}

/-! ## What a reconcile does to it -/

/-- What becomes of the models when a spec with the settings `x` is pushed from the copy `v` to the
instance `key`, with the hash and the auth mode that go with it; the model then has the id `y`. -/
inductive Pushes (s : Stock) (v : LiteLLMModel) (key : NamespacedName) (x : Provider)
    (hash mode : String) (y : String) : Stock → Prop where
  | created (h : v.status.litellmModelID = "") :
      Pushes s v key x hash mode y (Function.update s (key, y) (some x))
  | recreated (hid : v.status.litellmModelID ≠ "")
      (hmode : annotationAt v annotationAuthMode ≠ mode)
      (hold : (s (key, v.status.litellmModelID)).isSome = true) :
      Pushes s v key x hash mode y
        (Function.update (Function.update s (key, v.status.litellmModelID) none) (key, y) (some x))
  | updated (hid : v.status.litellmModelID = y)
      (hmode : annotationAt v annotationAuthMode = "" ∨ annotationAt v annotationAuthMode = mode)
      (hold : (s (key, y)).isSome = true) :
      Pushes s v key x hash mode y
        (Function.update s (key, y) ((s (key, y)).map (fun old => Record.overlay "" old x)))
  | skipped (hid : v.status.litellmModelID = y) (hhash : syncHash v = hash)
      (hmode : annotationAt v annotationAuthMode = mode) : Pushes s v key x hash mode y s

/-- The copy `v` has the id `y` of a model that was pushed from `model`, and the stored resource
`c` the hash and the auth mode; `s` are the models then. -/
structure Recorded (model : LiteLLMModel) (hash mode y : String) (s : Stock) (v c : LiteLLMModel)
    (τ : ModelScene) : Prop where
  now : τ.Now c
  rv : v.rv = c.rv
  live : c.metadata.deleting = false
  spec : c.spec = model.spec
  ns : c.metadata.ns = model.metadata.ns
  id : v.status.litellmModelID = y
  nonempty : y ≠ ""
  hash : syncHash c = hash
  mode : annotationAt c annotationAuthMode = mode
  stock : stock τ.log = s

/-- The model was pushed and that is recorded. -/
def PushedFrom (s : Stock) (model : LiteLLMModel) (key : NamespacedName) (x : Provider)
    (hash mode : String) (v c : LiteLLMModel)
    (τ : ModelScene) : Prop :=
  ∃ y s', Pushes s model key x hash mode y s' ∧ Recorded model hash mode y s' v c τ

variable {τ' : ModelScene}

theorem Noted.recorded {y : String} {s : Stock} {v : LiteLLMModel}
    (h : Noted model y hash mode τ v τ') (hy : y ≠ "") (hs : stock τ.log = s) :
    Recorded model hash mode y s v v τ' where
  now := h.now
  rv := rfl
  live := h.live
  spec := h.spec
  ns := h.ns
  id := h.id
  nonempty := hy
  hash := h.hash
  mode := h.mode
  stock := by rw [h.log, hs]

theorem Took.pushed {v : LiteLLMModel} (hE : Truthful E) (hnow : τ.Now model)
    (hlive : model.metadata.deleting = false)
    (h : Took lib home E conn model (createRequest model params) hash mode τ v τ') :
    PushedFrom (stock τ.log) model conn.inst.metadata.key params.provider hash mode v v τ' := by
  cases h with
  | created hid hresp hc hn =>
    refine ⟨_, _, ?_, hn.recorded (hE.create τ conn _ _ hresp) rfl⟩
    rw [hc.log, stock_cons]
    exact .created hid
  | recreated hid hflip ha hc hresp hc₁ hn =>
    refine ⟨_, _, ?_, hn.recorded (hE.create _ conn _ _ hresp) rfl⟩
    rw [hc₁.log, hc.log, stock_cons, stock_cons]
    exact .recreated hid hflip.2 (hE.delete τ conn _ _ ha)
  | updated hid hkeep ha hc hn =>
    refine ⟨_, _, ?_, hn.recorded hid rfl⟩
    rw [hc.log, stock_cons]
    exact .updated rfl hkeep (hE.update τ conn _ _ ha)
  | skipped hid hhash hmode =>
    exact ⟨_, _, .skipped rfl hhash hmode,
      ⟨hnow, rfl, hlive, rfl, rfl, rfl, hid, hhash, hmode, rfl⟩⟩

/-! ### The whole reconcile -/

variable {key : NamespacedName} {x : Provider}

theorem PushedFrom.checked {s : Stock} {v v' c : LiteLLMModel}
    (h : PushedFrom s model key x hash mode v c τ) (hc : Checked v τ v' τ') :
    PushedFrom s model key x hash mode v' c τ' := by
  obtain ⟨y, s', hpush, hrec⟩ := h
  obtain ⟨health, rfl⟩ := hc.copy
  refine ⟨y, s', hpush, { hrec with now := now_of_store hrec.now hc.store, stock := ?_ }⟩
  rcases hc.log with hlog | ⟨_, _, hlog⟩
  · rw [hlog]
    exact hrec.stock
  · rw [hlog, stock_cons]
    exact hrec.stock

theorem wpE_reconcileModel_pushed (hE : Truthful E) (hnow : τ.Now model)
    (hlive : model.metadata.deleting = false) :
    (E.rules kind lib home).wpE (reconcileModel lib model conn)
      (fun out τ' => ∃ params c, paramsOf E model.metadata.ns model.spec = some params ∧
        PushedFrom (stock τ.log) model conn.inst.metadata.key params.provider
          (lib.computeSpecHash (.model model.spec params)) (modeOf model.spec) out.1 c τ')
      (fun _ _ => True) τ := by
  refine wpE_mono (wpE_reconcileModel_took hnow hlive) (fun out τ' h => ?_) (fun _ _ _ => trivial)
  obtain ⟨params, τ₁, v, τ₂, hparams, hq, htook, hcheck⟩ := h
  refine ⟨params, v, hparams, ?_⟩
  rw [← hq.log]
  exact (htook.pushed hE (hq.now hnow) hlive).checked hcheck

theorem Pushes.alike {s s' : Stock} {v : LiteLLMModel} {y : String} (hv : Pass.Alike cr v)
    (h : Pushes s v key x hash mode y s') : Pushes s cr key x hash mode y s' := by
  obtain ⟨_, _, _, rfl⟩ := hv
  cases h with
  | created hid => exact .created hid
  | recreated hid hmode hold => exact .recreated hid hmode hold
  | updated hid hmode hold => exact .updated hid hmode hold
  | skipped hid hhash hmode => exact .skipped hid hhash hmode

variable {req : NamespacedName}

theorem pushed_of_success {r : LiteLLMModel} (hE : Truthful E) (hnow : σ.Now cr)
    (hlive : cr.metadata.deleting = false)
    (hr : Pass.Success (controller lib) (Reconciler.done lib req (R := .model) σ E) r) :
    ∃ params, paramsOf E cr.metadata.ns cr.spec = some params ∧
      PushedFrom (stock σ.log) cr (kind.refKey cr) params.provider
        (lib.computeSpecHash (.model cr.spec params)) (modeOf cr.spec) r r
        (Reconciler.done lib req (R := .model) σ E) := by
  obtain ⟨v, c, τ, ⟨params, hparams, y, s', hpush, hrec⟩, hst⟩ := Pass.of_success
    (P := fun v c τ => ∃ params, paramsOf E cr.metadata.ns cr.spec = some params ∧
      PushedFrom (stock σ.log) cr (kind.refKey cr) params.provider
        (lib.computeSpecHash (.model cr.spec params)) (modeOf cr.spec) v c τ)
    hnow hlive (fun _ _ => rfl) (fun conn v τ hres hv hnow' hrest => by
      refine wpE_mono (wpE_reconcileModel_pushed hE hnow' (hv.deleting.trans hlive))
        (fun out τ' h => ?_) (fun _ _ _ => trivial)
      obtain ⟨params, c, hparams, y, s', hpush, hrec⟩ := h
      have hkey := Pass.key_of_readOff hres
      rw [hv.ns, hv.spec] at hparams
      rw [hrest.log, hv.spec, hkey] at hpush
      rw [hv.spec] at hrec
      refine ⟨c, hrec.now, hrec.rv, hrec.live, params, hparams, y, s', hpush.alike hv, ?_⟩
      exact { hrec with spec := hrec.spec.trans hv.spec, ns := hrec.ns.trans hv.ns }) hr
  refine ⟨params, hparams, y, s', hpush, ?_⟩
  obtain ⟨rv, gen, rfl⟩ := hst.stamped
  exact
    { now := hst.now, rv := rfl, live := hrec.live, spec := hrec.spec, ns := hrec.ns
      id := hrec.id, nonempty := hrec.nonempty, hash := hrec.hash, mode := hrec.mode
      stock := (congrArg Model.stock hst.log).trans hrec.stock }

/-! ## A sequence of specs -/

abbrev Step : Type := Reconciler.model.Step

/-- What creating a spec from scratch stores, given what its references resolve to. -/
def fromScratch (ns : String) (p : Step) : Provider :=
  ((paramsOf p.2 ns p.1).map ModelParams.provider).getD (fun _ => "")

theorem fromScratch_eq {ns : String} {p : Step} (h : paramsOf p.2 ns p.1 = some params) :
    fromScratch ns p = params.provider := by
  unfold fromScratch
  rw [h]
  rfl

/-- The specs were reconciled in turn, the oldest of which is the last. -/
abbrev Reconciled (lib : Ext) (req : NamespacedName) (cr : LiteLLMModel) :
    List Step → Reconciler.model.RScene → Prop :=
  Reconciler.Succession lib req (controller lib) cr (fun p => Truthful p.2)

abbrev reconcileAll (lib : Ext) (req : NamespacedName) (cr : LiteLLMModel) :
    List Step → Option Reconciler.model.RScene :=
  Reconciler.succeed lib req (controller lib) cr

/-- The settings to which a sequence of specs amounts. -/
def amount (ns : String) (ps : List Step) : Provider :=
  Record.settled "" (ps.map (fun p => (modeOf p.1, fromScratch ns p)))

/-- LiteLLM has one model, that of a resource of the namespace with the id `y` and the last of the
specs, with the settings that the specs amount to. -/
structure Single (ns : String) (p : Step) (older : List Step) (y : String) (s : Stock) : Prop where
  stored : s (pushing.key ns p.1, y) = some (amount ns (p :: older))
  only : ∀ o, (s o).isSome = true → o = (pushing.key ns p.1, y)

/-- How the resource and the models stand after some specs were reconciled. What it says does not
depend on the spec of the resource, which may have been edited since. -/
structure Standing (lib : Ext) (ps : List Step) (s : Stock) (v : LiteLLMModel) : Prop where
  live : v.metadata.deleting = false
  /-- Before the first reconcile there is nothing. -/
  unbound : ps = [] → v.status.litellmModelID = "" ∧ ∀ o, s o = none
  bound : ∀ p older, ps = p :: older → v.status.litellmModelID ≠ "" ∧
    (∃ params, paramsOf p.2 v.metadata.ns p.1 = some params ∧
      syncHash v = lib.computeSpecHash (.model p.1 params)) ∧
    annotationAt v annotationAuthMode = modeOf p.1 ∧
    Single v.metadata.ns p older v.status.litellmModelID s

theorem modeOf_ne (spec : LiteLLMModelSpec) : modeOf spec ≠ "" := by
  unfold modeOf
  split <;> decide

section

variable {ps older : List Step} {p q : Step} {s s' : Stock} {v : LiteLLMModel} {ns y : String}

theorem single_of_created (hnone : ∀ o, s o = none) :
    Single ns p [] y (Function.update s (pushing.key ns p.1, y) (some (fromScratch ns p))) where
  stored := by
    rw [Function.update_self]
    exact congrArg some (Record.settled_of_ne (by simp)).symm
  only o ho := by
    by_contra hne
    rw [Function.update_of_ne hne, hnone] at ho
    cases ho

theorem single_of_recreated {id : String} (h : Single ns q older id s)
    (hold : (s (pushing.key ns p.1, id)).isSome = true) (hmode : modeOf q.1 ≠ modeOf p.1) :
    Single ns p (q :: older) y (Function.update
      (Function.update s (pushing.key ns p.1, id) none) (pushing.key ns p.1, y)
      (some (fromScratch ns p))) where
  stored := by
    rw [Function.update_self]
    exact congrArg some (Record.settled_of_ne (by simpa using hmode)).symm
  only o ho := by
    by_contra hne
    rw [Function.update_of_ne hne] at ho
    -- the only model there was is the one that was deleted
    have hsame := h.only _ hold
    by_cases ho' : o = (pushing.key ns p.1, id)
    · rw [ho', Function.update_self] at ho
      cases ho
    · rw [Function.update_of_ne ho'] at ho
      exact ho' ((h.only o ho).trans hsame.symm)

theorem single_of_updated (h : Single ns q older y s)
    (hold : (s (pushing.key ns p.1, y)).isSome = true) (hmode : modeOf q.1 = modeOf p.1) :
    Single ns p (q :: older) y (Function.update s (pushing.key ns p.1, y)
      ((s (pushing.key ns p.1, y)).map (fun x => Record.overlay "" x (fromScratch ns p)))) where
  stored := by
    rw [Function.update_self, h.only _ hold, h.stored]
    exact congrArg some (Record.settled_of_same (by simpa using hmode)).symm
  only o ho := by
    by_contra hne
    rw [Function.update_of_ne hne] at ho
    exact hne ((h.only o ho).trans (h.only _ hold).symm)

theorem single_of_skipped (h : Single ns q older y s) (hspec : q.1 = p.1)
    (hsame : fromScratch ns q = fromScratch ns p) : Single ns p (q :: older) y s where
  stored := by
    have hentry : (modeOf p.1, fromScratch ns p) = (modeOf q.1, fromScratch ns q) := by
      rw [hspec, hsame]
    rw [← hspec, h.stored]
    unfold amount
    simp only [List.map_cons, hentry]
    exact congrArg some (Record.settled_repeat _ _ _).symm
  only o ho := by
    rw [← hspec]
    exact h.only o ho

/-- **Step.** A successful reconcile of the next spec. -/
theorem standing_of_pushed {U : (hashSync lib).Occurs} (hfree : (hashSync lib).CollisionFree U)
    (hU : ∀ q ∈ p :: ps, ∀ params, paramsOf q.2 v.metadata.ns q.1 = some params → U q.1 params)
    {r : LiteLLMModel} (h : Standing lib ps s v)
    (hparams : paramsOf p.2 v.metadata.ns p.1 = some params)
    (hpush : Pushes s v (pushing.key v.metadata.ns p.1) params.provider
      (lib.computeSpecHash (.model p.1 params)) (modeOf p.1) y s')
    (hrec : Recorded v (lib.computeSpecHash (.model p.1 params)) (modeOf p.1) y s' r r τ) :
    Standing lib (p :: ps) s' r := by
  have hsingle : Single v.metadata.ns p ps y s' := by
    rw [← fromScratch_eq hparams] at hpush
    cases ps with
    | nil =>
      obtain ⟨hid, hnone⟩ := h.unbound rfl
      cases hpush with
      | created => exact single_of_created hnone
      | recreated hne => exact absurd hid hne
      | updated heq | skipped heq => exact absurd (heq.symm.trans hid) hrec.nonempty
    | cons q older =>
      obtain ⟨hid, ⟨params', hparams', hhash⟩, hmode, hq⟩ := h.bound q older rfl
      cases hpush with
      | created heq => exact absurd heq hid
      | recreated _ hflip hold =>
        rw [hmode] at hflip
        exact single_of_recreated hq hold hflip
      | updated heq hkeep hold =>
        rw [hmode] at hkeep
        rw [heq] at hq
        exact single_of_updated hq hold (hkeep.resolve_left (modeOf_ne q.1))
      | skipped heq hskip _ =>
        -- equal hashes are of equal specs and settings
        have hval := hfree q.1 params' p.1 params (hU q (by simp) _ hparams')
          (hU p (by simp) _ hparams) (hhash.symm.trans hskip)
        obtain ⟨hspec', rfl⟩ := SpecValue.model.inj hval
        rw [heq] at hq
        refine single_of_skipped hq hspec' ?_
        rw [fromScratch_eq hparams', fromScratch_eq hparams]
  refine ⟨hrec.live, nofun, ?_⟩
  rintro _ _ ⟨rfl, rfl⟩
  rw [hrec.id, hrec.ns]
  exact ⟨hrec.nonempty, ⟨params, hparams, hrec.hash⟩, hrec.mode, hsingle⟩

end

/-- **Run.** How things stand after any number of specs. -/
theorem standing_of_reconciled {ps : List Step} {U : (hashSync lib).Occurs}
    (hfree : (hashSync lib).CollisionFree U) (hlive : cr.metadata.deleting = false)
    (hid : cr.status.litellmModelID = "") (h : Reconciled lib req cr ps σ)
    (hU : ∀ q ∈ ps, ∀ params, paramsOf q.2 cr.metadata.ns q.1 = some params → U q.1 params) :
    ∃ v, σ.Now v ∧ v.metadata.ns = cr.metadata.ns ∧
      (∀ p older, ps = p :: older → v.spec = p.1) ∧ Standing lib ps (stock σ.log) v := by
  induction h with
  | start =>
    have hempty : ∀ p (older : List Step), [] ≠ p :: older := fun p older =>
      (List.cons_ne_nil p older).symm
    exact ⟨cr, rfl, rfl, fun p older h => absurd h (hempty p older), hlive,
      fun _ => ⟨hid, fun _ => rfl⟩, fun p older h => absurd h (hempty p older)⟩
  | @next ps p σ τ r _ hedit hE hr ih =>
    obtain ⟨v, hnow, hns, -, hv⟩ := ih (fun q hq => hU q (List.mem_cons_of_mem p hq))
    obtain ⟨⟨rv, gen, hnow'⟩, htrace⟩ := Reconciler.now_of_edit hnow hv.live hedit
    have hlog : τ.log = σ.log := by
      unfold Scene.log
      rw [htrace]
    have hv' : Standing lib ps (stock σ.log) (Resource.stamp { v with spec := p.1 } rv gen) :=
      ⟨hv.live, hv.unbound, hv.bound⟩
    rw [← hlog] at hv'
    obtain ⟨params, hparams, y, s', hpush, hrec⟩ := pushed_of_success hE hnow' hv'.live hr
    refine ⟨r, hrec.now, hrec.ns.trans hns, ?_, ?_⟩
    · rintro _ _ ⟨rfl, rfl⟩
      exact hrec.spec
    · rw [hrec.stock]
      refine standing_of_pushed hfree ?_ hv' hparams hpush hrec
      show ∀ q ∈ p :: ps, ∀ params, paramsOf q.2 v.metadata.ns q.1 = some params → U q.1 params
      rw [hns]
      exact hU

/-- What occurs in a sequence of specs. -/
def Occurring (lib : Ext) (ns : String) (ps : List Step) : (hashSync lib).Occurs :=
  fun spec params => ∃ p ∈ ps, p.1 = spec ∧ paramsOf p.2 ns spec = some params

/-- **When no setting of a provider is left over.** After any sequence of specs, each reconciled
with success, the model has the settings that creating the last spec from scratch stores, exactly if
every setting that the last spec leaves empty was empty since the auth mode last changed. -/
theorem provider_settings_current_iff {lib : Ext} {cr : LiteLLMModel} {p : Step} {ps : List Step}
    {σ : Reconciler.model.RScene} (hlive : cr.metadata.deleting = false)
    (hid : cr.status.litellmModelID = "")
    (hfree : (hashSync lib).CollisionFree (Occurring lib cr.metadata.ns (p :: ps)))
    (h : Reconciled lib req cr (p :: ps) σ) :
    (∃ v, σ.Now v ∧ stock σ.log (kind.refKey v, v.status.litellmModelID) =
      some (fromScratch cr.metadata.ns p)) ↔
    ∀ f, fromScratch cr.metadata.ns p f = "" →
      ∀ q ∈ ps.takeWhile (fun q => modeOf q.1 = modeOf p.1), fromScratch cr.metadata.ns q f = "" := by
  obtain ⟨v, hnow, hns, hspec, hv⟩ := standing_of_reconciled hfree hlive hid h
    (fun q hq params hparams => ⟨q, hq, rfl, hparams⟩)
  obtain ⟨-, -, -, hsingle⟩ := hv.bound p ps rfl
  have hstored : stock σ.log (kind.refKey v, v.status.litellmModelID) =
      some (amount cr.metadata.ns (p :: ps)) := by
    unfold Kind.refKey
    rw [hspec p ps rfl, ← hns]
    exact hsingle.stored
  have hiff : amount cr.metadata.ns (p :: ps) = fromScratch cr.metadata.ns p ↔
      ∀ f, fromScratch cr.metadata.ns p f = "" → ∀ q ∈ ps.takeWhile
        (fun q => modeOf q.1 = modeOf p.1), fromScratch cr.metadata.ns q f = "" := by
    unfold amount
    rw [List.map_cons, Record.settled_eq_last_iff]
    simp only [List.takeWhile_map, List.mem_map, forall_exists_index, and_imp,
      forall_apply_eq_imp_iff₂]
    rfl
  rw [← hiff]
  constructor
  · rintro ⟨v', hnow', hv'⟩
    obtain rfl : v = v' := Option.some.inj (hnow.symm.trans hnow')
    exact Option.some.inj (hstored.symm.trans hv')
  · intro heq
    exact ⟨v, hnow, by rw [hstored, heq]⟩

/-! ## A setting that is dropped -/

end Model

namespace Sample

/-- A model with an inline key, or none, and the given base URL. -/
def modelSpec (apiBase : String) : LiteLLMModelSpec :=
  { instanceRef := { name := "a" }, modelName := "gpt"
    litellmParams := { model := "azure/gpt", apiBase := apiBase } }

def model : LiteLLMModel := ⟨{ name := "gpt", ns := "apps" }, modelSpec "", {}⟩

/-- A hash that tells a model with a base URL from one without. -/
def baseHash : SpecValue → String
  | .model spec _ =>
    if spec.litellmParams.apiBase = "" then "0123456789abcdef" else "fedcba9876543210"
  | _ => "0123456789abcdef"

def hashingBase : Ext where
  computeSpecHash := baseHash
  computeSpecHash_length v := by
    cases v with
    | model spec params =>
      show (if spec.litellmParams.apiBase = "" then _ else _ : String).length = 16
      split <;> decide
    | _ => exact (by decide : "0123456789abcdef".length = 16)
  labelSelectorAsSelector := lib.labelSelectorAsSelector
  unmarshal := lib.unmarshal
  parseFloat := lib.parseFloat
  argon2IDKey := lib.argon2IDKey
  argon2IDKey_length := lib.argon2IDKey_length

/-- LiteLLM updates and deletes the models that it has. -/
def modelServed (σ : Reconciler.model.RScene) (conn : ResolvedInstance) :
    (req : ModelApi) → Except Error (Service.Result req)
  | .create _ => .ok (show ModelCreateResponse from ⟨"model-1"⟩)
  | .update body =>
    if (Model.stock σ.log (conn.inst.metadata.key, body.modelID)).isSome then .ok ()
    else .error (errorf "model not found")
  | .delete id =>
    if (Model.stock σ.log (conn.inst.metadata.key, id)).isSome then .ok ()
    else .error (errorf "model not found")
  | .check => .error (errorf "no answer")

def modelPass : Reconciler.model.RPass where
  cluster := cluster
  fits := fits_cluster
  fault _ := none
  serve := modelServed
  random _ := .ok []

theorem truthful_modelPass : Model.Truthful modelPass where
  create := by
    intro τ conn body resp h
    cases h
    show "model-1" ≠ ""
    decide
  update := by
    intro τ conn body a h
    by_contra hnone
    rw [show modelPass.serve τ conn (.update body) = .error _ from if_neg hnone] at h
    cases h
  delete := by
    intro τ conn id a h
    by_contra hnone
    rw [show modelPass.serve τ conn (.delete id) = .error _ from if_neg hnone] at h
    cases h

/-- The model without a base URL, and with one. -/
def without : Model.Step := (modelSpec "", modelPass)

def withBase : Model.Step := (modelSpec "http://azure", modelPass)

theorem truthful_of_base {ps : List Model.Step} (h : ∀ p ∈ ps, p = without ∨ p = withBase) :
    ∀ p ∈ ps, Model.Truthful p.2 := by
  intro p hp
  rcases h p hp with rfl | rfl
  · exact truthful_modelPass
  · exact truthful_modelPass

theorem collisionFree_base {ps : List Model.Step} (h : ∀ p ∈ ps, p = without ∨ p = withBase) :
    (Model.hashSync hashingBase).CollisionFree (Model.Occurring hashingBase "apps" ps) := by
  rintro s params s' params' ⟨p, hp, rfl, hparams⟩ ⟨p', hp', rfl, hparams'⟩ heq
  rcases h p hp with rfl | rfl <;> rcases h p' hp' with rfl | rfl
  · rw [Option.some.inj (hparams.symm.trans hparams')]
  · exact absurd (show "0123456789abcdef" = "fedcba9876543210" from heq) (by decide)
  · exact absurd (show "fedcba9876543210" = "0123456789abcdef" from heq) (by decide)
  · rw [Option.some.inj (hparams.symm.trans hparams')]

end Sample

namespace Model

/-- A base URL that is added later is stored. -/
theorem provider_settings_current_iff_added : ∃ σ v,
    reconcileAll Sample.hashingBase ⟨"apps", "gpt"⟩ Sample.model [Sample.withBase, Sample.without] =
      some σ ∧ σ.Now v ∧ stock σ.log (kind.refKey v, v.status.litellmModelID) =
        some (fromScratch "apps" Sample.withBase) := by
  have hrun : (reconcileAll Sample.hashingBase ⟨"apps", "gpt"⟩ Sample.model
      [Sample.withBase, Sample.without]).isSome = true := by decide +kernel
  obtain ⟨σ, hσ⟩ := Option.isSome_iff_exists.mp hrun
  have hcond : ∀ f, fromScratch "apps" Sample.withBase f = "" →
      ∀ q ∈ [Sample.without].takeWhile (fun q => modeOf q.1 = modeOf Sample.withBase.1),
        fromScratch "apps" q f = "" := by
    intro f _ q hq
    obtain rfl : q = Sample.without := by simpa using List.takeWhile_subset _ hq
    cases f <;> rfl
  have hlive : Sample.model.metadata.deleting = false := rfl
  have hid : Sample.model.status.litellmModelID = "" := rfl
  have hps : ∀ p ∈ [Sample.withBase, Sample.without], p = Sample.without ∨ p = Sample.withBase := by
    simp
  obtain ⟨v, hv⟩ := (provider_settings_current_iff hlive hid (Sample.collisionFree_base hps)
    (Reconciler.succession_of_succeed (Sample.truthful_of_base hps) hσ)).mpr hcond
  exact ⟨σ, v, hσ, hv⟩

/-- A base URL that is removed from the spec stays in LiteLLM. -/
theorem provider_settings_stale :
    ¬ ∀ (lib : Ext) (req : NamespacedName) (cr : LiteLLMModel) (p : Step) (ps : List Step)
      (σ : Reconciler.model.RScene), cr.metadata.deleting = false →
      cr.status.litellmModelID = "" →
      (hashSync lib).CollisionFree (Occurring lib cr.metadata.ns (p :: ps)) →
      Reconciled lib req cr (p :: ps) σ →
      ∃ v, σ.Now v ∧ stock σ.log (kind.refKey v, v.status.litellmModelID) =
        some (fromScratch cr.metadata.ns p) := by
  intro hall
  have hrun : (reconcileAll Sample.hashingBase ⟨"apps", "gpt"⟩ Sample.model
      [Sample.without, Sample.withBase]).any (fun σ => σ.world.store.current.any (fun v =>
        (stock σ.log (kind.refKey v, v.status.litellmModelID)).any
          (fun x => x .apiBase == "http://azure"))) = true := by decide +kernel
  obtain ⟨σ, hσ, hbase⟩ := (Option.any_eq_true _ _).mp hrun
  have hps : ∀ p ∈ [Sample.without, Sample.withBase], p = Sample.without ∨ p = Sample.withBase := by
    simp
  obtain ⟨v, hnow, hv⟩ := hall Sample.hashingBase ⟨"apps", "gpt"⟩ Sample.model Sample.without
    [Sample.withBase] σ rfl rfl (Sample.collisionFree_base hps)
    (Reconciler.succession_of_succeed (Sample.truthful_of_base hps) hσ)
  rw [show σ.world.store.current = some v from hnow, Option.any_some, hv, Option.any_some] at hbase
  have hnone : fromScratch "apps" Sample.without .apiBase = "" := rfl
  exact absurd (hnone.symm.trans (eq_of_beq hbase)) (by decide)

end Model

end LitellmOperator
