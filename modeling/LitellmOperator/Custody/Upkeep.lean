import LitellmOperator.Custody.Reconcile

/-! # Upkeep of the key Secret

A reconcile that has generated no key calls `reconcileKeySecret` with an empty one, to keep the
Secret's labels, annotations and owner in shape. `KeyWorld.run` runs a program against the world of
a virtual key, with any replies, and lists the calls it makes.
-/

set_option autoImplicit false

namespace LitellmOperator

open Effect Go Kube Ctl

/-- The result of a program, the world it leaves, and the calls it has made. -/
structure KeyRun (α : Type) where
  result : α
  world : KeyWorld
  calls : List KeyOp

def KeyWorld.run {α : Type} (w : KeyWorld) : KeyCtl α → List (Reply KeyApi) → Option (KeyRun α)
  | .ret a, [] => some ⟨a, w, []⟩
  | .call op k, rep :: reps =>
    (w.answer op rep).bind (fun (r, w') =>
      (w'.run (k r) reps).map (fun out => { out with calls := op :: out.calls }))
  | _, _ => none

namespace VirtualKey

variable (vk : LiteLLMVirtualKey)

def secretKey : NamespacedName := ⟨vk.metadata.ns, keySecretName vk⟩

def operatorLabels : StrMap String :=
  [(labelInstanceName, vk.spec.instanceRef.name), (labelResourceType, "virtual-key")]

def templateLabels : StrMap String :=
  (vk.spec.keySecretTemplate.map (·.labels)).getD []

def templateAnnotations : StrMap String :=
  (vk.spec.keySecretTemplate.map (·.annotations)).getD []

abbrev labelsOf (x : Secret) : StrMap String := x.metadata.labels.getD []

abbrev annotationsOf (x : Secret) : StrMap String := x.metadata.annotations.getD []

/-- `x'` is `x` with other metadata: the operator's labels, then those of the template, then those
that were there; and the annotations likewise. -/
structure KeptUp (vk : LiteLLMVirtualKey) (x x' : Secret) : Prop where
  data : x'.data = x.data
  labels : ∀ k, (labelsOf x').get? k =
    ((operatorLabels vk).get? k).or (((templateLabels vk).get? k).or ((labelsOf x).get? k))
  annotations : ∀ k, (annotationsOf x').get? k =
    ((templateAnnotations vk).get? k).or ((annotationsOf x).get? k)

def DistinctMeta (x : Secret) : Prop := (labelsOf x).Distinct ∧ (annotationsOf x).Distinct

/-- A virtual key in its world. The maps are Go maps, in which no key occurs twice. -/
structure Scenario where
  vk : LiteLLMVirtualKey
  world : KeyWorld
  template : (templateLabels vk).Distinct ∧ (templateAnnotations vk).Distinct
  existing : ∀ x, world.secrets.find (secretKey vk) = some x → DistinctMeta x

/-- Another kind of object, or one of another name, controls the Secret. -/
def ControlledByOther (x : Secret) : Prop :=
  ∃ r, controllerOf x.metadata = some r ∧ r.uid ≠ vk.metadata.uid ∧
    (r.kind ≠ kindVirtualKey ∨ r.name ≠ vk.metadata.name)

/-- What a call without a key may do. -/
structure Upkeep (vk : LiteLLMVirtualKey) (w : KeyWorld) (out : KeyRun (Except Error Unit)) :
    Prop where
  creates : ∀ x, Op.createSecret x ∉ out.calls
  others : ∀ key, key ≠ secretKey vk → out.world.secrets.find key = w.secrets.find key
  missing : w.secrets.find (secretKey vk) = none → out.world = w
  existing : ∀ x, w.secrets.find (secretKey vk) = some x →
    ∃ x', out.world.secrets.find (secretKey vk) = some x' ∧ (x' = x ∨ KeptUp vk x x')
  done : out.result = .ok () → ∃ x x', w.secrets.find (secretKey vk) = some x ∧
    out.world.secrets.find (secretKey vk) = some x' ∧ KeptUp vk x x'
  foreign : ∀ x, w.secrets.find (secretKey vk) = some x → ControlledByOther vk x →
    out.world = w ∧ (∃ e, out.result = .error e) ∧ ∀ y, Op.updateSecret y ∉ out.calls
  idle : out.result = .ok () → ∀ reps out',
    out.world.run (reconcileKeySecret vk "").run reps = some out' →
      ∀ x, Op.updateSecret x ∉ out'.calls

/-- Every call without a key is upkeep, whatever the replies. -/
def Scenario.KeepsUp (S : Scenario) : Prop := ∀ reps out,
  S.world.run (reconcileKeySecret S.vk "").run reps = some out → Upkeep S.vk S.world out

/-! ## The adjusted Secret -/

theorem mergeStringMaps_getD (existing desired : Option (StrMap String)) :
    (mergeStringMaps existing desired).getD [] =
      (desired.getD []).foldl (fun m e => m.set e.1 e.2) (existing.getD []) := by
  unfold mergeStringMaps
  split
  · rename_i h
    rw [h.1, List.isEmpty_iff.mp h.2]
    rfl
  · rfl

theorem distinct_operatorLabels : (operatorLabels vk).Distinct := by
  show [labelInstanceName, labelResourceType].Nodup
  decide

theorem desiredLabels_getD : (desiredLabels vk).getD [] =
    (operatorLabels vk).foldl (fun m e => m.set e.1 e.2) (templateLabels vk) := by
  unfold desiredLabels templateLabels
  cases vk.spec.keySecretTemplate with
  | none => rfl
  | some tmpl => exact mergeStringMaps_getD _ _

theorem find?_upsertOwnerRef {ref : OwnerReference} (href : ref.controller = true) :
    ∀ {refs : List OwnerReference},
      (∀ r, refs.find? (·.controller) = some r → r.referSame ref = true) →
      (upsertOwnerRef ref refs).find? (·.controller) = some ref
  | [], _ => List.find?_cons_of_pos href
  | r :: refs, h => by
    unfold upsertOwnerRef
    split
    · exact List.find?_cons_of_pos href
    · rename_i hne
      have hr : ¬ r.controller = true := fun hr => hne (h r (List.find?_cons_of_pos hr))
      rw [List.find?_cons_of_neg hr] at h ⊢
      exact find?_upsertOwnerRef href h

theorem isControlledBy_of_set {kind : String} {owner m m' : ObjectMeta}
    (h : setControllerReference kind owner m = some m') :
    isControlledBy m' owner = true ∧ m'.labels = m.labels ∧ m'.annotations = m.annotations := by
  unfold setControllerReference at h
  dsimp only at h
  have hsame : ∀ r, controllerOf m = some r →
      r.referSame ⟨kind, owner.name, owner.uid, true⟩ = true := by
    intro r hr
    rw [hr] at h
    by_contra hne
    simp [hne] at h
  have hm : m' = { m with
      ownerReferences := upsertOwnerRef ⟨kind, owner.name, owner.uid, true⟩ m.ownerReferences } := by
    split at h
    · rename_i r hr
      rw [if_pos (hsame r hr)] at h
      exact (Option.some.inj h).symm
    · exact (Option.some.inj h).symm
  subst hm
  refine ⟨?_, rfl, rfl⟩
  unfold isControlledBy controllerOf
  rw [find?_upsertOwnerRef rfl hsame]
  exact decide_eq_true rfl

section Merge

variable {m d : Option (StrMap String)} (hm : (m.getD []).Distinct) (hd : (d.getD []).Distinct)

include hd in
theorem get?_mergeStringMaps (k : String) : StrMap.get? ((mergeStringMaps m d).getD []) k =
    ((d.getD []).get? k).or ((m.getD []).get? k) := by
  rw [mergeStringMaps_getD]
  exact StrMap.get?_overlay hd _ k

include hm in
theorem distinct_mergeStringMaps : StrMap.Distinct ((mergeStringMaps m d).getD []) := by
  rw [mergeStringMaps_getD]
  exact hm.overlay _

include hm hd in
theorem mapsEqual_merged : mapsEqual m (mergeStringMaps m d) = true ↔
    ∀ k, (m.getD []).get? k = ((d.getD []).get? k).or ((m.getD []).get? k) := by
  refine (StrMap.equal_iff hm (distinct_mergeStringMaps hm)).trans (forall_congr' (fun k => ?_))
  rw [get?_mergeStringMaps hd]

include hm hd in
theorem get?_merged (k : String) : StrMap.get? ((if mapsEqual m (mergeStringMaps m d) then m
    else mergeStringMaps m d).getD []) k = ((d.getD []).get? k).or ((m.getD []).get? k) := by
  split
  · rename_i h
    exact (mapsEqual_merged hm hd).mp h k
  · exact get?_mergeStringMaps hd k

include hm in
theorem distinct_merged : StrMap.Distinct ((if mapsEqual m (mergeStringMaps m d) then m
    else mergeStringMaps m d).getD []) := by
  split
  · exact hm
  · exact distinct_mergeStringMaps hm

end Merge

variable {vk : LiteLLMVirtualKey} {x secret : Secret} {changed : Bool}
  (ht : (templateLabels vk).Distinct ∧ (templateAnnotations vk).Distinct)

include ht in
theorem distinct_desiredLabels : StrMap.Distinct ((desiredLabels vk).getD []) := by
  rw [desiredLabels_getD]
  exact ht.1.overlay _

theorem get?_desiredLabels (k : String) : StrMap.get? ((desiredLabels vk).getD []) k =
    ((operatorLabels vk).get? k).or ((templateLabels vk).get? k) := by
  rw [desiredLabels_getD]
  exact StrMap.get?_overlay (distinct_operatorLabels vk) _ k

include ht in
/-- **Adjusting** makes the Secret the resource's own and changes only its metadata. -/
theorem adjusted (hx : DistinctMeta x) (h : adjustKeySecret vk x "" = some (secret, changed)) :
    isControlledBy secret.metadata vk.metadata = true ∧ KeptUp vk x secret ∧
      DistinctMeta secret ∧ (changed = false → secret = x) := by
  unfold adjustKeySecret at h
  obtain ⟨m, hm, heq⟩ := Option.map_eq_some_iff.mp h
  obtain ⟨rfl, rfl⟩ := Prod.mk.inj heq
  have hmeta : isControlledBy m vk.metadata = true ∧ m.labels = x.metadata.labels ∧
      m.annotations = x.metadata.annotations := by
    split at hm
    · rename_i howned
      cases hm
      exact ⟨howned, rfl, rfl⟩
    · exact isControlledBy_of_set hm
  obtain ⟨hown, hl, ha⟩ := hmeta
  rw [hl, ha]
  refine ⟨hown, ⟨rfl, fun k => ?_, get?_merged hx.2 ht.2⟩,
    ⟨distinct_merged hx.1, distinct_merged hx.2⟩, fun hc => ?_⟩
  · refine (get?_merged hx.1 (distinct_desiredLabels ht) k).trans ?_
    rw [get?_desiredLabels, Option.or_assoc]
  · simp only [ne_eq, not_true_eq_false, decide_false, Bool.or_false, Bool.or_eq_false_iff,
      Bool.not_eq_false'] at hc
    rw [if_pos hc.1.1, Option.some.injEq] at hm
    rw [if_pos hc.1.2, if_pos hc.2, ← hm]
    rfl

include ht in
theorem unchanged (hx : DistinctMeta x) (hown : isControlledBy x.metadata vk.metadata = true)
    (hk : KeptUp vk x x) (h : adjustKeySecret vk x "" = some (secret, changed)) :
    changed = false := by
  have hl := (mapsEqual_merged hx.1 (distinct_desiredLabels ht)).mpr (fun k => by
    rw [get?_desiredLabels, Option.or_assoc]
    exact hk.labels k)
  have ha : mapsEqual x.metadata.annotations
      (mergeStringMaps x.metadata.annotations (desiredAnnotations vk)) = true :=
    (mapsEqual_merged hx.2 ht.2).mpr hk.annotations
  have hfalse : (adjustKeySecret vk x "").map Prod.snd = some false := by
    simp [adjustKeySecret, hown, hl, ha]
  rw [h] at hfalse
  exact Option.some.inj hfalse

theorem KeptUp.again (h : KeptUp vk x secret) : KeptUp vk secret secret where
  data := rfl
  labels k := by
    rw [h.labels k]
    cases (operatorLabels vk).get? k with
    | some v => rfl
    | none =>
      cases (templateLabels vk).get? k with
      | some v | none => rfl
  annotations k := by
    rw [h.annotations k]
    cases (templateAnnotations vk).get? k with
    | some v | none => rfl

theorem not_foreign (h : adjustKeySecret vk x "" = some (secret, changed)) :
    ¬ ControlledByOther vk x := by
  rintro ⟨r, hr, hu, hne⟩
  have hown : isControlledBy x.metadata vk.metadata = false := by
    simp [isControlledBy, hr, hu]
  have hset : setControllerReference kindVirtualKey vk.metadata x.metadata = none := by
    simp only [setControllerReference, hr, OwnerReference.referSame]
    rcases hne with h | h <;> simp [h]
  simp [adjustKeySecret, hown, hset] at h

/-! ## The call -/

abbrev lookAt (vk : LiteLLMVirtualKey) : KeyOp := .read (.getSecret (secretKey vk))

/-- How a call without a key ends. -/
inductive Ended (vk : LiteLLMVirtualKey) (w : KeyWorld) : KeyRun (Except Error Unit) → Prop where
  | failed (e : Error) : Ended vk w ⟨.error e, w, [lookAt vk]⟩
  | fine {x secret : Secret} (hx : w.secrets.find (secretKey vk) = some x)
      (ha : adjustKeySecret vk x "" = some (secret, false)) : Ended vk w ⟨.ok (), w, [lookAt vk]⟩
  | refused {x secret : Secret} (e : Error) (hx : w.secrets.find (secretKey vk) = some x)
      (ha : adjustKeySecret vk x "" = some (secret, true)) :
      Ended vk w ⟨.error e, w, [lookAt vk, .updateSecret secret]⟩
  | written {x secret : Secret} (r : Except Error Unit)
      (hx : w.secrets.find (secretKey vk) = some x)
      (ha : adjustKeySecret vk x "" = some (secret, true)) :
      Ended vk w ⟨r, { w with secrets := w.secrets.put secret }, [lookAt vk, .updateSecret secret]⟩

variable {reps : List (Reply KeyApi)} {w : KeyWorld}

theorem run_call {α : Type} {op : KeyOp} {k : op.Resp → KeyCtl α} {out : KeyRun α}
    (h : w.run (.call op k) reps = some out) :
    ∃ rep reps' r w' out', w.answer op rep = some (r, w') ∧ w'.run (k r) reps' = some out' ∧
      out = { out' with calls := op :: out'.calls } := by
  cases reps with
  | nil => cases h
  | cons rep reps =>
    obtain ⟨⟨r, w'⟩, hans, hrest⟩ := Option.bind_eq_some_iff.mp h
    obtain ⟨out', hrun, rfl⟩ := Option.map_eq_some_iff.mp hrest
    exact ⟨rep, reps, r, w', out', hans, hrun, rfl⟩

theorem run_ret {α : Type} {a : α} {out : KeyRun α} (h : w.run (.ret a) reps = some out) :
    out = ⟨a, w, []⟩ := by
  cases reps with
  | nil => exact (Option.some.inj h).symm
  | cons rep reps => cases h

theorem answer_getSecret {w w' : KeyWorld} {key : NamespacedName} {rep : Reply KeyApi}
    {r : Except Error Secret} (h : w.answer (.read (.getSecret key)) rep = some (r, w')) :
    w' = w ∧ ∀ x, r = .ok x → w.secrets.find key = some x := by
  cases rep with
  | done =>
    obtain ⟨rfl, rfl⟩ := Prod.mk.inj (Option.some.inj h)
    refine ⟨rfl, fun x hx => ?_⟩
    unfold KeyWorld.readSecret at hx
    split at hx
    · rename_i hf
      rw [hf, Except.ok.inj hx]
    · cases hx
  | fail e =>
    obtain ⟨rfl, rfl⟩ := Prod.mk.inj (Option.some.inj h)
    exact ⟨rfl, fun x hx => nomatch hx⟩
  | _ => cases h

theorem answer_updateSecret {w w' : KeyWorld} {y : Secret} {rep : Reply KeyApi}
    {r : Except Error Secret} (h : w.answer (.updateSecret y) rep = some (r, w')) :
    w' = { w with secrets := w.secrets.put y } ∨ w' = w ∧ ∃ e, r = .error e := by
  have hcommit : ∀ lost, w.commitSecret y (w.secrets.update y) lost = (r, w') →
      w' = { w with secrets := w.secrets.put y } ∨ w' = w ∧ ∃ e, r = .error e := by
    intro lost h
    rcases committed_cases h with ⟨_, secrets, hmap, rfl, -⟩ | ⟨e, rfl, rfl⟩
    · obtain ⟨_, hok, ⟨⟩⟩ := ok_of_map hmap
      obtain ⟨-, -, -, rfl⟩ := Secrets.update_ok hok
      exact .inl rfl
    · exact .inr ⟨rfl, e, rfl⟩
  cases rep with
  | done => exact hcommit none (Option.some.inj h)
  | lost e => exact hcommit (some e) (Option.some.inj h)
  | fail e =>
    obtain ⟨rfl, rfl⟩ := Prod.mk.inj (Option.some.inj h)
    exact .inr ⟨rfl, e, rfl⟩
  | _ => cases h

/-- What a call without a key does with what it has read. -/
def settle (vk : LiteLLMVirtualKey) : Except Error Secret → KeyCtl (Except Error Unit)
  | .error e =>
    if isNotFound e then .ret (.error (.leaf .keySecretGone))
    else .ret (.error (wrapf "get key secret: " e))
  | .ok x =>
    match adjustKeySecret vk x "" with
    | none => .ret (.error (wrapf "set owner ref on key secret: " alreadyOwned))
    | some (_, false) => .ret (.ok ())
    | some (secret, true) => .call (.updateSecret secret) (fun r => .ret (r.map (fun _ => ())))

theorem reconcileKeySecret_eq : (reconcileKeySecret vk "").run = .call (lookAt vk) (settle vk) := by
  refine congrArg (Prog.call (lookAt vk)) (funext (fun r => ?_))
  cases r with
  | error e =>
    show ExceptT.run (if isNotFound e = true then throw _ else throw _) = settle vk (.error e)
    unfold settle
    dsimp only
    split <;> rfl
  | ok x =>
    unfold settle
    simp only [Function.comp_apply, Prog.bind, ExceptT.bindCont]
    rcases adjustKeySecret vk x "" with _ | sc
    · rfl
    obtain ⟨secret, changed⟩ := sc
    cases changed with
    | false => rfl
    | true =>
      refine congrArg (Prog.call (Op.updateSecret secret)) (funext (fun r => ?_))
      cases r with
      | error e | ok y => rfl

theorem run_upkeep {out : KeyRun (Except Error Unit)}
    (h : w.run (reconcileKeySecret vk "").run reps = some out) : Ended vk w out := by
  rw [reconcileKeySecret_eq] at h
  obtain ⟨rep, reps, r, w', out', hans, h, rfl⟩ := run_call h
  obtain ⟨rfl, hfind⟩ := answer_getSecret hans
  cases r with
  | error e =>
    unfold settle at h
    dsimp only at h
    split at h
    · rw [run_ret h]
      exact .failed _
    · rw [run_ret h]
      exact .failed _
  | ok x =>
    unfold settle at h
    dsimp only at h
    split at h
    · rw [run_ret h]
      exact .failed _
    · rename_i hadj
      rw [run_ret h]
      exact .fine (hfind x rfl) hadj
    · rename_i secret hadj
      obtain ⟨rep', reps', r, w'', out'', hans', h', rfl⟩ := run_call h
      rw [run_ret h']
      rcases answer_updateSecret hans' with rfl | ⟨rfl, e, rfl⟩
      · exact .written _ (hfind x rfl) hadj
      · exact .refused e (hfind x rfl) hadj

include ht in
theorem idle_of_keptUp (hx : w.secrets.find (secretKey vk) = some x) (hd : DistinctMeta x)
    (hown : isControlledBy x.metadata vk.metadata = true) (hk : KeptUp vk x x)
    (reps : List (Reply KeyApi)) (out : KeyRun (Except Error Unit))
    (h : w.run (reconcileKeySecret vk "").run reps = some out) :
    ∀ y, Op.updateSecret y ∉ out.calls := by
  intro y
  cases run_upkeep h with
  | failed e | fine hx' ha => simp
  | refused e hx' ha | written r hx' ha =>
    rw [hx, Option.some.injEq] at hx'
    subst hx'
    cases unchanged ht hd hown hk ha

/-- **Upkeep touches metadata only.** -/
theorem Scenario.upkeep (S : Scenario) : S.KeepsUp := by
  intro reps out h
  obtain ⟨vk, w, ht, hex⟩ := S
  cases run_upkeep h with
  | failed e =>
    refine ⟨by simp, fun _ _ => rfl, fun _ => rfl, fun x hx => ⟨x, hx, .inl rfl⟩, nofun,
      fun x hx hf => ⟨rfl, ⟨e, rfl⟩, by simp⟩, nofun⟩
  | @fine x secret hx ha =>
    obtain ⟨hown, hk, hd, hsame⟩ := adjusted ht (hex x hx) ha
    rw [hsame rfl] at hown hk hd
    refine ⟨by simp, fun _ _ => rfl, fun _ => rfl, fun x hx => ⟨x, hx, .inl rfl⟩,
      fun _ => ⟨x, x, hx, hx, hk⟩, fun y hy hf => ?_, fun _ => idle_of_keptUp ht hx hd hown hk⟩
    rw [hx, Option.some.injEq] at hy
    exact absurd (hy ▸ hf) (not_foreign ha)
  | @refused x secret e hx ha =>
    refine ⟨by simp, fun _ _ => rfl, fun _ => rfl, fun x hx => ⟨x, hx, .inl rfl⟩, nofun,
      fun y hy hf => ?_, nofun⟩
    rw [hx, Option.some.injEq] at hy
    exact absurd (hy ▸ hf) (not_foreign ha)
  | @written x secret r hx ha =>
    obtain ⟨hown, hk, hd, -⟩ := adjusted ht (hex x hx) ha
    obtain ⟨hkey, -, -, hstr, -⟩ := adjustKeySecret_some ha
    have hk' : secret.key = secretKey vk := hkey.trans (Secrets.key_of_find hx)
    have hput := hk' ▸ w.secrets.find_put_self secret
    -- nothing is merged into the data of a Secret as it was read
    have hplain : (secret.stored w.secrets.nextVersion).data = secret.data := by
      rw [w.secrets.plain x (Secrets.mem_of_find hx)] at hstr
      show secret.stringData.foldl _ secret.data = secret.data
      rw [hstr]
      rfl
    have hstored : KeptUp vk x (secret.stored w.secrets.nextVersion) :=
      ⟨hplain.trans hk.data, hk.labels, hk.annotations⟩
    refine ⟨by simp, fun key hne => w.secrets.find_put_ne secret (hk' ▸ hne), fun hn => ?_,
      fun y hy => ⟨_, hput, .inr ?_⟩, fun _ => ⟨x, _, hx, hput, hstored⟩, fun y hy hf => ?_,
      fun _ => idle_of_keptUp ht hput hd hown hstored.again⟩
    · rw [hx] at hn
      cases hn
    · rw [hx, Option.some.injEq] at hy
      exact hy ▸ hstored
    · rw [hx, Option.some.injEq] at hy
      exact absurd (hy ▸ hf) (not_foreign ha)

end VirtualKey

namespace Sample

/-- The Secret of an earlier virtual key of the same name. -/
def leftKey : Secret where
  metadata :=
    { name := "ci-key", ns := "apps", resourceVersion := 3
      ownerReferences := [⟨kindVirtualKey, "ci", "u1", true⟩] }
  data := [("api_key", "sk-1")]

def rebornKey : LiteLLMVirtualKey where
  metadata := { name := "ci", ns := "apps", uid := "u2" }
  spec := { instanceRef := ⟨"main", ""⟩, keyAlias := "ci" }
  status := {}

def leftWorld : KeyWorld where
  store := .created rebornKey
  secrets := ⟨[leftKey], 4, by decide, by decide⟩

/-- The template of the new virtual key has a label. -/
def reborn : VirtualKey.Scenario where
  vk := { rebornKey with spec.keySecretTemplate := some { labels := [("team", "apps")] } }
  world := leftWorld
  template := by decide
  existing x hx := by
    cases hx
    exact ⟨by decide, by decide⟩

end Sample

theorem VirtualKey.Scenario.upkeep_reborn : ∃ out, Sample.reborn.world.run
      (VirtualKey.reconcileKeySecret Sample.reborn.vk "").run [.done, .done] = some out ∧
    out.result = .ok () ∧ VirtualKey.Upkeep Sample.reborn.vk Sample.reborn.world out :=
  ⟨_, rfl, rfl, Sample.reborn.upkeep [.done, .done] _ rfl⟩

/-- A new virtual key takes the Secret over that the one of its name controlled before it. -/
theorem left_key_taken_over : ∃ out secret,
    Sample.leftWorld.run (VirtualKey.reconcileKeySecret Sample.rebornKey "").run [.done, .done] =
      some out ∧ out.result = .ok () ∧ Op.updateSecret secret ∈ out.calls ∧
    isControlledBy Sample.leftKey.metadata Sample.rebornKey.metadata = false ∧
    (controllerOf Sample.leftKey.metadata).isSome ∧
    out.world.secrets.find Sample.leftKey.key ≠ some Sample.leftKey := by
  refine ⟨_, _, rfl, rfl, List.mem_cons_of_mem _ (List.mem_singleton.mpr rfl), ?_, ?_, ?_⟩
  · decide
  · decide
  · decide

end LitellmOperator
