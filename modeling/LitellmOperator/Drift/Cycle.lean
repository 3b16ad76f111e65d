import LitellmOperator.Drift.Remedy

/-! # A cycle of the config sync

One cycle lists the resources and the objects of each kind once and acts on these lists. This module
says what it sends then, whatever it is answered: which objects it prunes, whose status it clears and
on which copies it takes the sync hash off. These are the writes that runs of the reconciles allow
for (`Env.clear`, `Env.drift`).
-/

set_option autoImplicit false

namespace LitellmOperator

open Effect Protocol Go Kube

/-- A cycle, with how the lookup of each namespace comes out while it lasts. -/
structure SyncCycle extends ConfigSyncer where
  lib : Ext
  look : String → Except Error Kube.Namespace

/-- What a cycle is shown of a kind. -/
structure SyncCycle.Shown (K : SyncKind) where
  crds : Except Error (List K.CR)
  infos : Except Error (List K.Info)

/-- What a cycle has sent for a kind, and the answers to its writes. -/
structure SyncCycle.Sent (K : SyncKind) where
  deletes : List String := []
  clears : List K.CR := []
  updates : List K.CR := []
  answers : List K.CR := []

section

variable {K : SyncKind} (C : SyncCycle)

/-! ## What is claimed -/

namespace SyncCycle

/-- Whether resources in `ns` are let in. A lookup that fails counts as a yes. -/
def allows (ns : String) : Bool :=
  match instanceAllowsNamespace C.lib (namespaceReader (C.look ns)) C.inst ns with
  | .ok allowed => allowed
  | .error _ => true

/-- The scope of a resource without the cache. -/
def scopeOf (crd : K.CR) : SyncScope :=
  if !referencesInstance crd.metadata.ns (K.instanceRef crd.spec) C.inst then .scopeOutside
  else C.scopeIf (C.allows crd.metadata.ns) crd.metadata.ns K.kind

/-- The id under which the cycle manages the resource. -/
def managedBy (crd : K.CR) : Option String :=
  if C.scopeOf crd = .scopeManaged ∧ crd.metadata.deleting = false then K.managedID crd else none

/-- The id that the resource keeps from being pruned. -/
def protectedBy (crd : K.CR) : Option String :=
  if C.scopeOf crd = .scopeProtected ∧ crd.metadata.deleting = false then K.protectedID crd
  else none

/-- No resource claims the id. -/
def Unclaimed (crds : List K.CR) (id : String) : Prop :=
  ∀ crd ∈ crds, C.managedBy crd ≠ some id ∧ C.protectedBy crd ≠ some id

instance (crds : List K.CR) (id : String) : Decidable (C.Unclaimed crds id) :=
  inferInstanceAs (Decidable (∀ crd ∈ crds, _))

/-- The cache holds what the lookups say. -/
def Agrees (cache : StrMap Bool) : Prop :=
  ∀ ns allowed, cache.get? ns = some allowed → allowed = C.allows ns

/-! ## What is sent -/

/-- The lists and the lookups come out as shown; writes and deletes may come out in any way. -/
def shown (V : Shown K) : Protocol (SyncOp K) SyncOp.Resp (Sent K) where
  allowed _ _ := True
  expects _ op r :=
    match op, r with
    | .listCRs, r => r = V.crds
    | .listAPI, r => r = V.infos
    | .read (.getNamespace ns), r => r = C.look ns
    | .order ids, r => List.Perm r ids
    | _, _ => True
  next st op r :=
    match op, r with
    | .deleteAPI id, _ => { st with deletes := st.deletes ++ [id] }
    | .statusUpdate obj, r =>
      { st with clears := obj :: st.clears, answers := r.toOption.toList ++ st.answers }
    | .update obj, r =>
      { st with updates := obj :: st.updates, answers := r.toOption.toList ++ st.answers }
    | _, _ => st

/-- A copy of a resource that the cycle manages: listed, or the answer to one of its writes. -/
def Holds (crds : List K.CR) (st : Sent K) (c : K.CR) : Prop :=
  c ∈ st.answers ∨ c ∈ crds ∧ (C.managedBy c).isSome

/-- An update takes the sync hash off a copy that is held, and does nothing else. -/
def Updates (crds : List K.CR) (st : Sent K) : Prop :=
  ∀ obj ∈ st.updates, C.CRDWins ∧ ∃ c, C.Holds crds st c ∧ obj = withoutSyncHash c

/-- A status is cleared only if the object of the resource is not listed. -/
def ClearsUnlisted (crds : List K.CR) (listed : List String) (st : Sent K) : Prop :=
  ∀ obj ∈ st.clears, C.CRDWins ∧ ∃ crd ∈ crds, ∃ id, C.managedBy crd = some id ∧ id ∉ listed ∧
    obj = crd.withStatus (K.clearStatus crd.status)

/-- What a cycle sends for a kind, given what it has listed. -/
structure Effects (crds : List K.CR) (listed : List String) (st : Sent K) : Prop where
  /-- Under the prune policy every unclaimed object is deleted, once for each time it is listed. -/
  deletes : st.deletes = if C.config.unmanagedResourcePolicy = .prune
    then listed.filter (C.Unclaimed crds) else []
  clears : C.ClearsUnlisted crds listed st
  /-- For every managed id that is not listed, a status that has it is cleared. -/
  recreates : C.CRDWins → ∀ crd ∈ crds, ∀ id, C.managedBy crd = some id → id ∉ listed →
    ∃ crd' ∈ crds, C.managedBy crd' = some id ∧
      crd'.withStatus (K.clearStatus crd'.status) ∈ st.clears
  updates : C.Updates crds st

/-- What a cycle sends for a kind. If one of the lists cannot be had, nothing is sent. -/
def Sends (V : Shown K) (st : Sent K) : Prop :=
  match V.crds, V.infos with
  | .ok crds, .ok infos => C.Effects crds (infos.map K.apiID) st
  | _, _ => st = {}

end SyncCycle

open SyncCycle

variable {C} {V : Shown K} {st st' : Sent K} {cache : StrMap Bool} {crds : List K.CR}
variable {index : CRIndex K} {ids : List String} {p : SyncProgress K}

/-! ## The index -/

theorem wp_allows (ns : String) :
    (C.shown V).wp (instanceAllowsNamespace C.lib SyncOp.client C.inst ns) (fun r st' =>
      (match r with
        | .ok allowed => allowed
        | .error _ => true) = C.allows ns ∧ st' = st) st := by
  unfold allows
  rcases instanceAllowsNamespace_cases C.lib C.inst ns with ⟨r, hr⟩ | ⟨sel, hr⟩
  · rw [hr, hr]
    exact ⟨rfl, rfl⟩
  · rw [hr, hr, wp_bind]
    refine ⟨trivial, fun r hx => ?_⟩
    cases (show r = C.look ns from hx)
    simp only [namespaceReader]
    cases C.look ns <;> exact ⟨rfl, rfl⟩

theorem wp_scope (hc : C.Agrees cache) (crd : K.CR) :
    (C.shown V).wp (C.scope C.lib SyncOp.client cache crd.metadata.ns (K.instanceRef crd.spec)
        K.kind)
      (fun out st' => out.1 = C.scopeOf crd ∧ C.Agrees out.2 ∧ st' = st) st := by
  unfold ConfigSyncer.scope scopeOf
  split
  · exact ⟨rfl, hc, rfl⟩
  · split
    · rename_i allowed hget
      rw [hc _ _ hget]
      exact ⟨rfl, hc, rfl⟩
    · rw [wp_bind]
      refine wp_mono (wp_allows crd.metadata.ns) (fun r st' h => ?_)
      refine ⟨congrArg (C.scopeIf · _ _) h.1, fun ns allowed hget => ?_, h.2⟩
      rw [StrMap.get?_set] at hget
      grind [Agrees]

variable (C) in
/-- The index holds the ids that the resources claim, and a resource for each managed one. -/
structure Indexes (crds : List K.CR) (index : CRIndex K) : Prop where
  held : ∀ id crd, index.managedIDs.get? id = some crd → crd ∈ crds ∧ C.managedBy crd = some id
  managed : ∀ crd ∈ crds, ∀ id, C.managedBy crd = some id → (index.managedIDs.get? id).isSome
  kept : ∀ id, id ∈ index.protectedIDs ↔ ∃ crd ∈ crds, C.protectedBy crd = some id

theorem add_scopeOf (crd : K.CR) : index.add crd (C.scopeOf crd) =
    ⟨(C.managedBy crd).elim index.managedIDs (index.managedIDs.set · crd),
      (C.protectedBy crd).toList ++ index.protectedIDs⟩ := by
  unfold CRIndex.add managedBy protectedBy
  obtain ⟨m, ids⟩ := index
  cases C.scopeOf crd <;> grind

theorem Indexes.add (h : Indexes C crds index) (crd : K.CR) :
    Indexes C (crds ++ [crd]) (index.add crd (C.scopeOf crd)) := by
  obtain ⟨hheld, hmanaged, hkept⟩ := h
  rw [add_scopeOf]
  cases hm : C.managedBy crd <;> constructor <;> grind [StrMap.get?_set]

theorem wp_indexCRs (rest : List K.CR) (hc : C.Agrees cache) (h : Indexes C crds index) :
    (C.shown V).wp (indexCRs C.lib C.toConfigSyncer rest cache index) (fun out st' =>
      Indexes C (crds ++ rest) out.1 ∧ C.Agrees out.2 ∧ st' = st) st := by
  induction rest generalizing crds index cache with
  | nil =>
    rw [List.append_nil]
    exact ⟨h, hc, rfl⟩
  | cons crd rest ih =>
    unfold indexCRs
    rw [wp_bind, List.append_cons]
    refine wp_mono (wp_scope hc crd) (fun out st' hs => ?_)
    obtain ⟨scope, cache'⟩ := out
    obtain ⟨rfl, hc', rfl⟩ := hs
    exact ih hc' (h.add crd)

/-! ## Handlers -/

theorem withoutSyncHash_idem (c : K.CR) :
    withoutSyncHash (withoutSyncHash c) = withoutSyncHash c := by
  simp [withoutSyncHash, StrMap.delete]

variable (C crds) in
/-- From `st` to `st'` nothing is sent but status updates, and updates as they may be. -/
structure Remedies (st st' : Sent K) : Prop where
  deletes : st'.deletes = st.deletes
  holds : ∀ c, C.Holds crds st c → C.Holds crds st' c
  updates : C.Updates crds st → C.Updates crds st'

theorem Remedies.refl (st : Sent K) : Remedies C crds st st := ⟨rfl, fun _ h => h, fun h => h⟩

theorem Remedies.trans {st'' : Sent K} (h : Remedies C crds st st')
    (h' : Remedies C crds st' st'') : Remedies C crds st st'' :=
  ⟨h'.deletes.trans h.deletes, fun c hc => h'.holds c (h.holds c hc),
    fun hu => h'.updates (h.updates hu)⟩

theorem remedies_update (hw : C.CRDWins) {c obj : K.CR} (hc : C.Holds crds st c)
    (hobj : obj = withoutSyncHash c) (r : Except Error K.CR) :
    Remedies C crds st ((C.shown V).next st (.update obj) r) := by
  constructor <;> grind [shown, Holds, Updates]

theorem remedies_statusUpdate (obj : K.CR) (r : Except Error K.CR) :
    Remedies C crds st ((C.shown V).next st (.statusUpdate obj) r) := by
  constructor <;> grind [shown, Holds, Updates]

variable (C crds) in
/-- The copy is held, but for the sync hash. -/
def Near (st : Sent K) (crd : K.CR) : Prop :=
  ∃ c, C.Holds crds st c ∧ (crd = c ∨ crd = withoutSyncHash c)

theorem wp_handleDrift {crd : K.CR} (hcrd : Near C crds st crd) (name : String) (r : SyncResult) :
    (C.shown V).wp (handleDrift C.toConfigSyncer crd name r) (fun out st' =>
      Remedies C crds st st' ∧ st'.clears = st.clears ∧ Near C crds st' out.1) st := by
  have hstay : Remedies C crds st st ∧ st.clears = st.clears ∧ Near C crds st crd :=
    ⟨.refl st, rfl, hcrd⟩
  obtain ⟨c, hc, hcc⟩ := hcrd
  unfold handleDrift
  cases hres : C.config.conflictResolution
  case apiWins => exact hstay
  case manual => exact hstay
  all_goals
    have hw : C.CRDWins := by simp [ConfigSyncer.CRDWins, hres]
    cases ha : crd.metadata.annotations with
    | none => exact hstay
    | some annotations =>
      have hobj : deleteSyncHash crd annotations = withoutSyncHash c := by
        have h : deleteSyncHash crd annotations = withoutSyncHash crd := by
          simp [withoutSyncHash, deleteSyncHash, ha]
        rcases hcc with rfl | rfl
        · exact h
        · rw [h, withoutSyncHash_idem]
      refine ⟨trivial, fun r _ => ?_⟩
      have hr := remedies_update (V := V) hw hc hobj r
      cases r with
      | error e => exact ⟨hr, rfl, c, hr.holds c hc, .inr hobj⟩
      | ok c' => exact ⟨hr, rfl, c', .inl List.mem_cons_self, .inl rfl⟩

variable (crds) in
/-- Under crd-wins the status of the given copy is cleared; otherwise nothing is sent. -/
theorem wp_handleDeletedFromAPI (crd : K.CR) (name : String) (r : SyncResult) :
    (C.shown V).wp (handleDeletedFromAPI C.toConfigSyncer crd name r) (fun _ st' =>
      Remedies C crds st st' ∧ (¬ C.CRDWins ∧ st'.clears = st.clears ∨ C.CRDWins ∧
        st'.clears = crd.withStatus (K.clearStatus crd.status) :: st.clears)) st := by
  unfold handleDeletedFromAPI
  cases hres : C.config.conflictResolution
  case apiWins => exact ⟨.refl _, .inl ⟨by simp [ConfigSyncer.CRDWins, hres], rfl⟩⟩
  case manual => exact ⟨.refl _, .inl ⟨by simp [ConfigSyncer.CRDWins, hres], rfl⟩⟩
  all_goals
    have hw : C.CRDWins := by simp [ConfigSyncer.CRDWins, hres]
    refine ⟨trivial, fun r _ => ?_⟩
    have hr : Remedies C crds st ((C.shown V).next st
        (.statusUpdate (crd.withStatus (K.clearStatus crd.status))) r) := remedies_statusUpdate _ r
    cases r with
    | error e => exact ⟨hr, .inr ⟨hw, rfl⟩⟩
    | ok c =>
      refine ⟨trivial, fun r' _ => ?_⟩
      have hr' := hr.trans (remedies_update (V := V) hw (.inl List.mem_cons_self) rfl r')
      cases r' <;> exact ⟨hr', .inr ⟨hw, rfl⟩⟩

/-! ## The two loops -/

variable (C crds) in
/-- What has been done after objects with these ids. -/
structure Entered (index : CRIndex K) (ids : List String) (p : SyncProgress K) (st : Sent K) :
    Prop where
  copies : ∀ id c, p.managedIDs.get? id = some c → Near C crds st c
  keys : ∀ id, (p.managedIDs.get? id).isSome = (index.managedIDs.get? id).isSome
  unseen : ∀ id, id ∉ ids → p.managedIDs.get? id = index.managedIDs.get? id
  seen : ∀ id, id ∈ p.seenIDs ↔ id ∈ ids ∧ (index.managedIDs.get? id).isSome
  deletes : st.deletes = if C.config.unmanagedResourcePolicy = .prune
    then ids.filter (C.Unclaimed crds) else []
  clears : st.clears = []
  updates : C.Updates crds st

theorem wp_syncEntry (hi : Indexes C crds index) (h : Entered C crds index ids p st)
    (info : K.Info) :
    (C.shown V).wp (syncEntry C.toConfigSyncer index.protectedIDs p info)
      (Entered C crds index (ids ++ [K.apiID info])) st := by
  obtain ⟨hcopies, hkeys, hunseen, hseen, hdeletes, hclears, hupdates⟩ := h
  obtain ⟨hheld, hmanaged, hkept⟩ := hi
  have hun : C.Unclaimed crds (K.apiID info) ↔
      p.managedIDs.get? (K.apiID info) = none ∧ K.apiID info ∉ index.protectedIDs := by
    have hkey := hkeys (K.apiID info)
    unfold Unclaimed
    cases hget : index.managedIDs.get? (K.apiID info) <;> grind [Option.isSome_iff_ne_none]
  unfold syncEntry
  split
  · rename_i crd hget
    split
    · rw [wp_bind]
      refine wp_mono (wp_handleDrift (hcopies _ crd hget) _ _) (fun out st' hout => ?_)
      obtain ⟨⟨hd, hh, hu⟩, hc, hn⟩ := hout
      constructor <;> grind [StrMap.get?_set, Near]
    · constructor <;> grind
  · split
    · constructor <;> grind
    · rw [wp_bind]
      unfold handleUnmanaged
      cases hpol : C.config.unmanagedResourcePolicy
      case prune =>
        refine ⟨trivial, fun r _ => ?_⟩
        cases r <;> constructor <;> grind [shown, Near, Holds, Updates]
      all_goals constructor <;> grind

variable (C crds) in
/-- What has been done after the managed ids `ids`, from the state `st` of the first loop on. -/
structure Missed (index : CRIndex K) (listed : List String) (st : Sent K) (ids : List String)
    (st' : Sent K) : Prop where
  remedies : Remedies C crds st st'
  clears : C.ClearsUnlisted crds listed st'
  recreates : C.CRDWins → ∀ id ∈ ids, ∀ crd, index.managedIDs.get? id = some crd → id ∉ listed →
    crd.withStatus (K.clearStatus crd.status) ∈ st'.clears

theorem wp_syncMissing {listed : List String} (hi : Indexes C crds index)
    (h : Entered C crds index listed p st) (id : String) (r : SyncResult)
    (hm : Missed C crds index listed st ids st') :
    (C.shown V).wp (syncMissing C.toConfigSyncer p r id)
      (fun _ => Missed C crds index listed st (ids ++ [id])) st' := by
  obtain ⟨-, hkeys, hunseen, hseen, -⟩ := h
  obtain ⟨hremedies, hclears, hrecreates⟩ := hm
  have hkey := hkeys id
  unfold syncMissing
  split
  · exact ⟨hremedies, hclears, by grind⟩
  · split
    · exact ⟨hremedies, hclears, by grind⟩
    · rename_i crd hget
      have hmiss : id ∉ listed := by grind
      have hheld := hi.held id crd (by grind)
      refine wp_mono (wp_handleDeletedFromAPI crds crd _ r) (fun _ st'' hout => ?_)
      exact ⟨hremedies.trans hout.1, by grind [ClearsUnlisted], by grind⟩

theorem wp_syncListed {infos : List K.Info} (hi : Indexes C crds index) (r : SyncResult) :
    (C.shown V).wp (syncListed C.toConfigSyncer index infos r)
      (fun _ => C.Effects crds (infos.map K.apiID)) {} := by
  have h₀ : Entered C crds index (([] : List K.Info).map K.apiID) ⟨index.managedIDs, [], r⟩ {} := by
    have hheld := hi.held
    constructor <;> grind [Near, Holds, Updates]
  have hfirst := wp_foldlM (P := C.shown V)
    (J := fun done => Entered C crds index (done.map K.apiID))
    (fun done info p st h => by
      rw [List.map_append]
      exact wp_syncEntry hi h info) infos [] h₀
  unfold syncListed
  rw [wp_bind]
  refine wp_mono hfirst (fun p st h => ⟨trivial, fun ids hids => ?_⟩)
  change List String at ids
  have hids : List.Perm ids p.managedIDs.keys := hids
  have hsecond := wp_foldlM (P := C.shown V) (b := p.result)
    (J := fun ids _ => Missed C crds index (infos.map K.apiID) st ids)
    (fun ids id r st' hm => wp_syncMissing hi h id r hm) ids []
    ⟨.refl st, by simp [ClearsUnlisted, h.clears], fun _ _ hid => (by cases hid)⟩
  refine wp_mono hsecond (fun r st' hm => ?_)
  refine ⟨hm.remedies.deletes.trans h.deletes, hm.clears, fun hw crd hcrd id hid hmiss => ?_,
    hm.remedies.updates h.updates⟩
  obtain ⟨crd', hget⟩ := Option.isSome_iff_exists.mp (hi.managed crd hcrd id hid)
  have hmem : id ∈ ids := by
    rw [hids.mem_iff, StrMap.mem_keys, h.keys, hget]
    rfl
  obtain ⟨hcrd', hid'⟩ := hi.held id crd' hget
  exact ⟨crd', hcrd', hid', hm.recreates hw id hmem crd' hget hmiss⟩

theorem wp_syncKind (hc : C.Agrees cache) (r₀ : SyncResult) :
    (C.shown V).wp (syncKind K C.lib C.toConfigSyncer cache r₀)
      (fun out st => C.Sends V st ∧ C.Agrees out.2) {} := by
  unfold syncKind Sends
  refine ⟨trivial, fun r hr => ?_⟩
  cases (show r = V.crds from hr)
  cases V.crds with
  | error e => exact ⟨rfl, hc⟩
  | ok crds =>
    show (C.shown V).wp (indexCRs C.lib C.toConfigSyncer crds cache {} >>= _) _ _
    rw [wp_bind]
    have h₀ : Indexes C ([] : List K.CR) {} := by constructor <;> simp [StrMap.get?]
    refine wp_mono (wp_indexCRs crds hc h₀) (fun out st h => ?_)
    obtain ⟨index, cache'⟩ := out
    obtain ⟨hi, hc', rfl⟩ := h
    refine ⟨trivial, fun r hr => ?_⟩
    cases (show r = V.infos from hr)
    cases V.infos with
    | error e => exact ⟨rfl, hc'⟩
    | ok infos =>
      show (C.shown V).wp (syncListed C.toConfigSyncer index infos r₀ >>= _) _ _
      rw [wp_bind]
      exact wp_mono (wp_syncListed hi r₀) (fun r st h => ⟨h, hc'⟩)

end

/-! ## All kinds -/

section

open SyncCycle

variable (C : SyncCycle) (V : (n : SyncName) → Shown n.kind)

/-- The lists of every kind and the lookups come out as shown. -/
def SyncCycle.shownAll : Protocol CycleOp CycleOp.Resp ((n : SyncName) → Sent n.kind) where
  allowed _ _ := True
  expects st op r := (C.shown (V op.1)).expects (st op.1) op.2 r
  next st op r := Function.update st op.1 ((C.shown (V op.1)).next (st op.1) op.2 r)

/-- The kinds `ns` have been handled, and the others have not. -/
def SyncCycle.Handled (ns : List SyncName) (st : (n : SyncName) → Sent n.kind) : Prop :=
  ∀ n, if n ∈ ns then C.Sends (V n) (st n) else st n = {}

variable {C V} {st : (n : SyncName) → Sent n.kind} {n : SyncName}

theorem wp_forKind {α : Type} {p : SyncCtl n.kind α}
    {Q : α → ((n : SyncName) → Sent n.kind) → Prop}
    (h : (C.shown (V n)).wp p (fun a sent => Q a (Function.update st n sent)) (st n)) :
    (C.shownAll V).wp (forKind n p) Q st := by
  induction p generalizing st with
  | ret a =>
    have h' : Q a (Function.update st n (st n)) := h
    rwa [Function.update_eq_self] at h'
  | call op k ih =>
    refine ⟨trivial, fun r hr => ih r ?_⟩
    simp only [SyncCycle.shownAll, Function.update_idem, Function.update_self]
    exact h.2 r hr

theorem wp_nextKind {α : Type} {ns : List SyncName} {cache : StrMap Bool}
    {k : SyncResult × StrMap Bool → Prog CycleOp CycleOp.Resp α}
    {Q : α → ((n : SyncName) → Sent n.kind) → Prop} (hn : n ∉ ns)
    (hst : C.Handled V ns st ∧ C.Agrees cache) (r : SyncResult)
    (hk : ∀ out st', C.Handled V (n :: ns) st' ∧ C.Agrees out.2 → (C.shownAll V).wp (k out) Q st') :
    (C.shownAll V).wp (forKind n (syncKind n.kind C.lib C.toConfigSyncer cache r) >>= k) Q st := by
  have hnew := hst.1 n
  rw [if_neg hn] at hnew
  rw [wp_bind]
  refine wp_forKind ?_
  rw [hnew]
  refine wp_mono (wp_syncKind hst.2 r) (fun out sent h => hk out _ ⟨fun m => ?_, h.2⟩)
  by_cases hm : m = n
  · subst hm
    rw [if_pos List.mem_cons_self, Function.update_self]
    exact h.1
  · have hsame := hst.1 m
    rw [Function.update_of_ne hm]
    simpa [hm] using hsame

theorem wp_sync {Q : ((n : SyncName) → Sent n.kind) → Prop}
    (hQ : ∀ st, (∀ n, C.Sends (V n) (st n)) → Q st) :
    (C.shownAll V).wp (C.sync C.lib) (fun _ => Q) (fun _ => {}) := by
  have h₀ : C.Handled V [] (fun _ => {}) ∧ C.Agrees [] :=
    ⟨fun n => by simp, fun _ _ h => (by cases h)⟩
  unfold ConfigSyncer.sync
  refine wp_nextKind (by simp) h₀ _ (fun out st h => ?_)
  refine wp_nextKind (by simp) h _ (fun out st h => ?_)
  refine wp_nextKind (by simp) h _ (fun out st h => ?_)
  refine wp_nextKind (by simp) h _ (fun out st h => ?_)
  refine wp_nextKind (by simp) h _ (fun out st h => ?_)
  refine wp_nextKind (by simp) h _ (fun out st h => hQ st (fun n => ?_))
  have hn := h.1 n
  rwa [if_pos (by cases n <;> simp)] at hn

end

/-- **The scope of a resource agrees with its admission.** A cycle manages the resources that their
reconcile admits to the instance. If the namespace cannot be looked up, the reconcile is refused and
the cycle still counts the resource in. -/
theorem scope_agrees {K : SyncKind} (C : SyncCycle) (V : SyncCycle.Shown K) (st : SyncCycle.Sent K)
    (cache : {cache // C.Agrees cache}) (crd : K.CR) :
    (C.shown V).wp (C.scope C.lib SyncOp.client cache.1 crd.metadata.ns (K.instanceRef crd.spec)
        K.kind)
      (fun out st' => C.Agrees out.2 ∧ st' = st ∧
        let refers := referencesInstance crd.metadata.ns (K.instanceRef crd.spec) C.inst
        let admitted := admits C.lib C.inst crd.metadata.ns K.kind (C.look crd.metadata.ns)
        match instanceAllowsNamespace C.lib (namespaceReader (C.look crd.metadata.ns)) C.inst
            crd.metadata.ns with
        | .ok allowed => (out.1 = .scopeManaged ↔ refers ∧ admitted) ∧
            (out.1 = .scopeProtected ↔ refers ∧ allowed ∧ !admitted)
        | .error _ => (out.1 = .scopeOutside ↔ !refers) ∧ admitted = false) st := by
  refine wp_mono (wp_scope cache.2 crd) (fun out st' h => ⟨h.2.1, h.2.2, ?_⟩)
  simp only [h.1, SyncCycle.scopeOf, SyncCycle.allows, admits_eq, ConfigSyncer.scopeIf]
  split <;> grind

/-- **What a cycle sends**, for every kind and whatever it is answered. -/
theorem sync_sends (C : SyncCycle) (V : (n : SyncName) → SyncCycle.Shown n.kind) :
    (C.shownAll V).wp (C.sync C.lib) (fun _ st => ∀ n, C.Sends (V n) (st n)) (fun _ => {}) :=
  wp_sync (fun _ h => h)

/-- **What a cycle prunes** is listed, and no live resource that refers to the instance has its id,
unless the namespace of the resource was looked up and is not allowed. -/
theorem sync_prunes_strays (C : SyncCycle) (V : (n : SyncName) → SyncCycle.Shown n.kind) :
    (C.shownAll V).wp (C.sync C.lib) (fun _ st => ∀ n, ∀ id ∈ (st n).deletes,
      C.config.unmanagedResourcePolicy = .prune ∧
      ∃ crds infos, (V n).crds = .ok crds ∧ (V n).infos = .ok infos ∧ id ∈ infos.map n.kind.apiID ∧
        ∀ crd ∈ crds, crd.metadata.deleting = false →
          referencesInstance crd.metadata.ns (n.kind.instanceRef crd.spec) C.inst = true →
          n.kind.managedID crd = some id → n.kind.protectedID crd = some id →
          instanceAllowsNamespace C.lib (namespaceReader (C.look crd.metadata.ns)) C.inst
            crd.metadata.ns = .ok false)
      (fun _ => {}) := by
  refine wp_sync (fun st h n id hid => ?_)
  have hn := h n
  unfold SyncCycle.Sends at hn
  split at hn
  · rename_i crds infos hcrds hinfos
    rw [hn.deletes] at hid
    split at hid
    · rename_i hprune
      obtain ⟨hmem, hun⟩ := List.mem_filter.mp hid
      refine ⟨hprune, crds, infos, hcrds, hinfos, hmem, fun crd hcrd hlive href hm hp => ?_⟩
      have hclaim := of_decide_eq_true hun crd hcrd
      grind [SyncCycle.managedBy, SyncCycle.protectedBy, SyncCycle.scopeOf, ConfigSyncer.scopeIf,
        SyncCycle.allows]
    · cases hid
  · rw [hn] at hid
    cases hid

end LitellmOperator
