import LitellmOperator.Api.Requests
import LitellmOperator.Kube.Workload

/-! # What a pod spec consumes

`podSpecSecretRefs` and `podSpecConfigMapRefs` collect the Secrets, respectively ConfigMaps, a pod
spec takes data from, each with the keys it takes or the note that it takes them all. The two
functions look at the same places and differ in which field they read there; `RefKind` is that
choice.

`PodSpec.uses` is the same information as a plain list of uses, one for each place. The collected
references say exactly what it says, without order and repetition (`has_podSpecRefs`).
-/

set_option autoImplicit false

namespace LitellmOperator

open Kube Go

section

/-! ## Collecting references -/

/-- How one object is consumed. -/
structure DataRef where
  whole : Bool := false
  keys : Option (StrMap Unit) := none
  deriving DecidableEq, Repr

variable (d : DataRef)

def DataRef.addKey (key : String) : DataRef := { d with keys := some ((d.keys.getD []).set key ()) }

variable (refs : StrMap DataRef)

/-- The change `f` to the reference of that name, which `refFunc` creates if there is none. An
object without a name is not recorded. -/
def refFunc (name : String) (f : DataRef → DataRef) : StrMap DataRef :=
  if name = "" then refs else refs.set name (f ((refs.get? name).getD {}))

/-- Where references to one kind of object stand in a pod spec. -/
structure RefKind where
  keyRef : EnvVarSource → Option KeySelector
  envFrom : EnvFromSource → Option String
  volume : Volume → Option DataSource
  projection : VolumeProjection → Option DataSource

section

variable (R : RefKind)

variable (refs : StrMap DataRef)

def envRef (e : EnvVar) : StrMap DataRef :=
  match e.valueFrom.bind R.keyRef with
  | none => refs
  | some r => refFunc refs r.name (·.addKey r.key)

def envFromRef (e : EnvFromSource) : StrMap DataRef :=
  match R.envFrom e with
  | none => refs
  | some name => refFunc refs name (fun d => { d with whole := true })

def sourceRef (src : DataSource) : StrMap DataRef :=
  match src.items with
  | [] => refFunc refs src.name (fun d => { d with whole := true })
  | items => items.foldl (fun refs item => refFunc refs src.name (·.addKey item.key)) refs

def projectionRef (p : VolumeProjection) : StrMap DataRef :=
  match R.projection p with
  | none => refs
  | some src => sourceRef refs src

def containerRefs (c : Container) : StrMap DataRef :=
  c.envFrom.foldl (envFromRef R) (c.env.foldl (envRef R) refs)

def volumeRefs (v : Volume) : StrMap DataRef :=
  match R.volume v, v.projected with
  | some src, _ => sourceRef refs src
  | none, some srcs => srcs.foldl (projectionRef R) refs
  | none, none => refs

def podSpecRefs (spec : PodSpec) : StrMap DataRef := spec.volumes.foldl (volumeRefs R)
    ((spec.containers ++ spec.initContainers).foldl (containerRefs R) [])

end

def secretRefs : RefKind where
  keyRef s := s.secretKeyRef
  envFrom e := e.secretRef
  volume v := v.secret
  projection p := p.secret

def configMapRefs : RefKind where
  keyRef s := s.configMapKeyRef
  envFrom e := e.configMapRef
  volume v := v.configMap
  projection p := p.configMap

def podSpecSecretRefs (spec : PodSpec) : StrMap DataRef := podSpecRefs secretRefs spec

def podSpecConfigMapRefs (spec : PodSpec) : StrMap DataRef := podSpecRefs configMapRefs spec

/-! ## Uses -/

/-- One way an object is consumed. -/
inductive Use where
  | whole
  | key (k : String)
  deriving DecidableEq, Repr

/-- A mounted object is consumed by the listed keys, or as a whole if none is listed. -/
def dataSourceUses (src : DataSource) : List (String × Use) :=
  match src.items with
  | [] => [(src.name, .whole)]
  | items => items.map (fun item => (src.name, .key item.key))

section

variable (R : RefKind)

def containerUses (c : Container) : List (String × Use) := c.env.filterMap (fun e =>
      (e.valueFrom.bind R.keyRef).map (fun r => (r.name, Use.key r.key))) ++
    c.envFrom.filterMap (fun e => (R.envFrom e).map (fun name => (name, Use.whole)))

def volumeUses (v : Volume) : List (String × Use) :=
  match R.volume v with
  | some src => dataSourceUses src
  | none => ((v.projected.getD []).filterMap R.projection).flatMap dataSourceUses

/-- All uses a pod makes of objects of one kind. -/
def podUses (spec : PodSpec) : List (String × Use) :=
  (spec.containers ++ spec.initContainers).flatMap (containerUses R) ++
    spec.volumes.flatMap (volumeUses R)

/-- The pod consumes the named object in this way. -/
def Consumes (spec : PodSpec) (name : String) (u : Use) : Prop :=
  name ≠ "" ∧ (name, u) ∈ podUses R spec

instance (spec : PodSpec) (name : String) (u : Use) : Decidable (Consumes R spec name u) :=
  inferInstanceAs (Decidable (_ ∧ _))

end

/-! ## The references are the uses -/

def DataRef.add : Use → DataRef
  | .whole => { d with whole := true }
  | .key k => d.addKey k

/-- One use recorded. -/
def note (use : String × Use) : StrMap DataRef := refFunc refs use.1 (·.add use.2)

theorem foldl_sourceRef (src : DataSource) :
    sourceRef refs src = (dataSourceUses src).foldl note refs := by
  unfold sourceRef dataSourceUses
  cases hitems : src.items with
  | nil => rfl
  | cons item items => simp only [List.foldl_map, note, DataRef.add]

section

variable (R : RefKind)

theorem foldl_env (es : List EnvVar) (refs : StrMap DataRef) :
    es.foldl (envRef R) refs = (es.filterMap (fun e =>
      (e.valueFrom.bind R.keyRef).map (fun r => (r.name, Use.key r.key)))).foldl note refs := by
  induction es generalizing refs with
  | nil => rfl
  | cons e es ih =>
    rw [List.foldl_cons, ih]
    unfold envRef
    cases hsrc : e.valueFrom.bind R.keyRef with
    | none => rw [List.filterMap_cons_none (by rw [hsrc]; rfl)]
    | some r => rw [List.filterMap_cons_some (by rw [hsrc]; rfl)]; rfl

theorem foldl_envFrom (es : List EnvFromSource) (refs : StrMap DataRef) :
    es.foldl (envFromRef R) refs =
      (es.filterMap (fun e => (R.envFrom e).map (fun name => (name, Use.whole)))).foldl
        note refs := by
  induction es generalizing refs with
  | nil => rfl
  | cons e es ih =>
    rw [List.foldl_cons, ih]
    unfold envFromRef
    cases hsrc : R.envFrom e with
    | none => rw [List.filterMap_cons_none (by rw [hsrc]; rfl)]
    | some name => rw [List.filterMap_cons_some (by rw [hsrc]; rfl)]; rfl

theorem foldl_projection (ps : List VolumeProjection) (refs : StrMap DataRef) :
    ps.foldl (projectionRef R) refs =
      ((ps.filterMap R.projection).flatMap dataSourceUses).foldl note refs := by
  induction ps generalizing refs with
  | nil => rfl
  | cons p ps ih =>
    rw [List.foldl_cons, ih]
    unfold projectionRef
    cases hsrc : R.projection p with
    | none => rw [List.filterMap_cons_none hsrc]
    | some src =>
      rw [List.filterMap_cons_some hsrc, List.flatMap_cons, List.foldl_append]
      simp only [foldl_sourceRef]

theorem containerRefs_eq (refs : StrMap DataRef) (c : Container) :
    containerRefs R refs c = (containerUses R c).foldl note refs := by
  unfold containerRefs containerUses
  rw [List.foldl_append, foldl_env, foldl_envFrom]

theorem volumeRefs_eq (refs : StrMap DataRef) (v : Volume) :
    volumeRefs R refs v = (volumeUses R v).foldl note refs := by
  unfold volumeRefs volumeUses
  cases R.volume v with
  | some src => exact foldl_sourceRef refs src
  | none =>
    cases v.projected with
    | none => rfl
    | some srcs => exact foldl_projection R srcs refs

/-- Collecting the references of a pod spec records its uses one after the other. -/
theorem podSpecRefs_eq (spec : PodSpec) : podSpecRefs R spec = (podUses R spec).foldl note [] := by
  unfold podSpecRefs podUses
  have hc : containerRefs R = fun refs c => (containerUses R c).foldl note refs := by
    funext refs c
    exact containerRefs_eq R refs c
  have hv : volumeRefs R = fun refs v => (volumeUses R v).foldl note refs := by
    funext refs v
    exact volumeRefs_eq R refs v
  simp only [hc, hv, List.foldl_append, List.foldl_flatMap]

end

/-! ## What is recorded -/

/-- The reference says that the object is consumed in this way. -/
def DataRef.Has : Use → Prop
  | .whole => d.whole = true
  | .key k => ((d.keys.getD []).get? k).isSome

/-- No key is recorded twice, and a reference is recorded because of some use. -/
structure DataRef.Ok (d : DataRef) : Prop where
  distinct : (d.keys.getD []).Distinct
  used : ∃ u, d.Has u

/-- The recorded references are a Go map, and each one is sound. -/
structure RefsOk (refs : StrMap DataRef) : Prop where
  distinct : refs.Distinct
  ok : ∀ name d, refs.get? name = some d → d.Ok

def Recorded (name : String) (u : Use) : Prop := ∃ d, refs.get? name = some d ∧ d.Has u

theorem DataRef.has_add (u v : Use) : (d.add u).Has v ↔ v = u ∨ d.Has v := by
  cases u with
  | whole => cases v <;> simp [DataRef.add, DataRef.Has]
  | key k =>
    cases v with
    | whole => simp [DataRef.add, DataRef.addKey, DataRef.Has]
    | key k' =>
      simp only [DataRef.add, DataRef.addKey, DataRef.Has, Option.getD_some,
        ← StrMap.mem_keys, StrMap.mem_keys_set, Use.key.injEq]

theorem DataRef.distinct_add {d : DataRef} (h : (d.keys.getD []).Distinct) (u : Use) :
    ((d.add u).keys.getD []).Distinct := by
  cases u with
  | whole => exact h
  | key k => exact h.set k ()

theorem DataRef.not_has_empty (u : Use) : ¬ ({} : DataRef).Has u := by
  cases u <;> simp [DataRef.Has, StrMap.get?]

theorem recorded_note (use : String × Use) (name : String) (u : Use) :
    Recorded (note refs use) name u ↔ (name ≠ "" ∧ (name, u) = use) ∨ Recorded refs name u := by
  obtain ⟨m, v⟩ := use
  unfold note refFunc Recorded
  dsimp only
  by_cases hm : m = ""
  · rw [if_pos hm]
    refine ⟨Or.inr, ?_⟩
    rintro (⟨hne, heq⟩ | hrec)
    · exact absurd ((Prod.mk.inj heq).1.trans hm) hne
    · exact hrec
  · rw [if_neg hm]
    by_cases hn : m = name
    · subst hn
      simp only [StrMap.get?_set_self, Option.some.injEq, exists_eq_left', DataRef.has_add,
        Prod.mk.injEq, true_and]
      cases hget : refs.get? m with
      | none => simp [DataRef.not_has_empty, hm]
      | some d => simp [hm]
    · have hne : name ≠ m := fun e => hn e.symm
      simp [StrMap.get?_set_ne refs _ hn, hne]

theorem RefsOk.note {refs : StrMap DataRef} (h : RefsOk refs) (use : String × Use) :
    RefsOk (note refs use) := by
  obtain ⟨m, v⟩ := use
  unfold LitellmOperator.note refFunc
  dsimp only
  by_cases hm : m = ""
  · rw [if_pos hm]
    exact h
  · rw [if_neg hm]
    refine ⟨h.distinct.set _ _, ?_⟩
    intro name d hget
    by_cases hn : m = name
    · subst hn
      rw [StrMap.get?_set_self] at hget
      obtain rfl := Option.some.inj hget
      refine ⟨DataRef.distinct_add ?_ v, v, (DataRef.has_add _ v v).mpr (Or.inl rfl)⟩
      cases hold : refs.get? m with
      | none => exact List.nodup_nil
      | some d => exact (h.ok m d hold).distinct
    · rw [StrMap.get?_set_ne refs _ hn] at hget
      exact h.ok name d hget

theorem RefsOk.foldl {refs : StrMap DataRef} (h : RefsOk refs) (us : List (String × Use)) :
    RefsOk (us.foldl LitellmOperator.note refs) := by
  induction us generalizing refs with
  | nil => exact h
  | cons use us ih => exact ih (h.note use)

theorem recorded_foldl (us : List (String × Use)) (refs : StrMap DataRef) (name : String)
    (u : Use) :
    Recorded (us.foldl note refs) name u ↔ (name ≠ "" ∧ (name, u) ∈ us) ∨ Recorded refs name u := by
  induction us generalizing refs with
  | nil => simp
  | cons use us ih =>
    rw [List.foldl_cons, ih, recorded_note, List.mem_cons]
    tauto

section

variable (R : RefKind) (spec : PodSpec)

theorem refsOk_podSpecRefs : RefsOk (podSpecRefs R spec) := by
  rw [podSpecRefs_eq]
  apply RefsOk.foldl
  constructor
  · exact List.nodup_nil
  · intro name d h
    cases h

/-- **The collected references say what the pod consumes.** -/
theorem recorded_podSpecRefs (name : String) (u : Use) :
    Recorded (podSpecRefs R spec) name u ↔ Consumes R spec name u := by
  rw [podSpecRefs_eq, recorded_foldl]
  unfold Consumes Recorded
  simp [StrMap.get?]

variable {R spec}

theorem isSome_podSpecRefs {name : String} :
    ((podSpecRefs R spec).get? name).isSome ↔ ∃ u, Consumes R spec name u := by
  constructor
  · intro h
    obtain ⟨d, hd⟩ := Option.isSome_iff_exists.mp h
    obtain ⟨u, hu⟩ := ((refsOk_podSpecRefs R spec).ok name d hd).used
    exact ⟨u, (recorded_podSpecRefs R spec name u).mp ⟨d, hd, hu⟩⟩
  · rintro ⟨u, hu⟩
    obtain ⟨d, hd, -⟩ := (recorded_podSpecRefs R spec name u).mpr hu
    exact Option.isSome_iff_exists.mpr ⟨d, hd⟩

theorem has_podSpecRefs {name : String} {d : DataRef}
    (h : (podSpecRefs R spec).get? name = some d) (u : Use) :
    d.Has u ↔ Consumes R spec name u := by
  rw [← recorded_podSpecRefs]
  constructor
  · intro hu
    exact ⟨d, h, hu⟩
  · rintro ⟨d', hd', hu⟩
    rw [h] at hd'
    cases hd'
    exact hu

end

end

/-! ## The rollout digests

`podTemplateSecretHash` and `podTemplateConfigMapHash` put the contents of the Secrets, respectively
ConfigMaps, a pod consumes into one digest. A pod template carries the digests as annotations, so a
changed digest rolls the workload.

The objects are written in the order of their names, each as its name and then either the mark of an
absent object or one pair of fields for each wanted key. How the wanted keys are found and looked
up differs between the two functions; a `DataKind` holds both, and what the proofs need to know of
it is `DataKind.Lawful`. SHA-256 with the hexadecimal form of its result is the parameter `sum`.

`podTemplateHash_congr` says what the digest does not depend on: anything the pod does not consume.
-/

/-! ## The objects -/

/-- The data of a Secret. No key occurs twice, and keys and values have lengths that fit a machine
word. -/
structure SecretData where
  data : StrMap Bytes := []
  distinct : data.Distinct := by decide
  sized : ∀ e ∈ data, Sized (bytesOf e.1) ∧ Sized e.2 := by decide

/-- The data of a ConfigMap. The API server keeps the keys of the two maps apart. -/
structure ConfigMapData where
  data : StrMap String := []
  binaryData : StrMap Bytes := []
  distinct : (data.keys ++ binaryData.keys).Nodup := by decide
  sized : ∀ e ∈ data, Sized (bytesOf e.1) ∧ Sized (bytesOf e.2) := by decide
  binarySized : ∀ e ∈ binaryData, Sized (bytesOf e.1) ∧ Sized e.2 := by decide

/-- A kind of object whose contents are hashed. -/
structure DataKind (Obj : Type) where
  word : String
  refs : RefKind
  /-- The keys hashed for a reference to a present object. -/
  wanted : DataRef → Obj → List String
  value : Obj → String → Option Bytes

def secretData : DataKind SecretData where
  word := "Secret"
  refs := secretRefs
  wanted ref secret :=
    match (if ref.whole then none else ref.keys) with
    | some keys => keys.sortedKeys
    | none => secret.data.sortedKeys
  value secret k := secret.data.get? k

def configMapData : DataKind ConfigMapData where
  word := "ConfigMap"
  refs := configMapRefs
  wanted ref cm :=
    if ref.whole then StrMap.sorted (cm.data.sortedKeys ++ cm.binaryData.sortedKeys)
    else (ref.keys.getD []).sortedKeys
  value cm k :=
    match cm.data.get? k with
    | some v => some (bytesOf v)
    | none => cm.binaryData.get? k

/-! ## The digest -/

def absentMark : Bytes := bytesOf "\x00absent"

def missingMark : Bytes := bytesOf "\x00missing"

section

variable {Obj : Type} (K : DataKind Obj)

/-- The fields written for one wanted key of an object. -/
def keyFields (x : Obj) (k : String) : List Bytes := [bytesOf k, (K.value x k).getD missingMark]

/-- The fields written after the name of an object. -/
def bodyFields (ref : DataRef) : Option Obj → List Bytes
  | none => [absentMark]
  | some x => (K.wanted ref x).flatMap (keyFields K x)

/-- `client.Get` for the objects of one kind. -/
abbrev DataReader (Obj : Type) : Type := NamespacedName → Except StatusError Obj

/-- What a read says of an object, unless it failed for another reason than that there is none. -/
def present (read : Except StatusError Obj) : Except StatusError (Option Obj) :=
  match read with
  | .ok x => .ok (some x)
  | .error e => if e.reason = .notFound then .ok none else .error e

/-- The fields of the named objects, in order. -/
def hashFields (c : DataReader Obj) (ns : String) (refs : StrMap DataRef) :
    List String → Except Error (List Bytes)
  | [] => .ok []
  | name :: names =>
    match present (c ⟨ns, name⟩) with
    | .error e =>
      .error (wrapf ("hashing " ++ K.word ++ " " ++ ns ++ "/" ++ name ++ " for pod template: ")
        (.leaf (.kube e)))
    | .ok x => do
      let rest ← hashFields c ns refs names
      return bytesOf name :: bodyFields K ((refs.get? name).getD {}) x ++ rest

def hashStream (c : DataReader Obj) (ns : String) (spec : PodSpec) : Except Error Bytes :=
  let refs := podSpecRefs K.refs spec
  (hashFields K c ns refs refs.sortedKeys).map fields

def podTemplateHash (sum : Bytes → String) (c : DataReader Obj) (ns : String) (spec : PodSpec) :
    Except Error String :=
  if (podSpecRefs K.refs spec).isEmpty then .ok "" else (hashStream K c ns spec).map sum

end

def podTemplateSecretHash := podTemplateHash secretData

def podTemplateConfigMapHash := podTemplateHash configMapData

/-! ## Which keys are wanted -/

/-- Each key that is there is wanted once for a whole reference, and each referenced key, there or
not, for a reference by keys. -/
structure DataKind.Lawful {Obj : Type} (K : DataKind Obj) : Prop where
  whole : ∀ ref x, ref.whole = true →
    ∃ ks : List String, ks.Nodup ∧ (∀ k, k ∈ ks ↔ (K.value x k).isSome) ∧
      K.wanted ref x = StrMap.sorted ks
  keys : ∀ ref x ks, ref.whole = false → ref.keys = some ks → K.wanted ref x = ks.sortedKeys

theorem secretData_lawful : secretData.Lawful where
  whole := by
    intro ref x hwhole
    refine ⟨x.data.keys, x.distinct, fun k => StrMap.mem_keys, ?_⟩
    simp only [secretData, hwhole, if_true]
    rfl
  keys := by
    intro ref x ks hwhole hkeys
    simp [secretData, hwhole, hkeys]

theorem configMapData_lawful : configMapData.Lawful where
  whole := by
    intro ref x hwhole
    obtain ⟨hdata, hbinary, hdisjoint⟩ := List.nodup_append.mp x.distinct
    refine ⟨x.data.sortedKeys ++ x.binaryData.sortedKeys, ?_, ?_, ?_⟩
    · refine List.nodup_append.mpr ⟨StrMap.nodup_sorted hdata, StrMap.nodup_sorted hbinary, ?_⟩
      intro a ha b hb
      exact hdisjoint a (StrMap.mem_sorted.mp ha) b (StrMap.mem_sorted.mp hb)
    · intro k
      rw [List.mem_append, StrMap.mem_sortedKeys, StrMap.mem_sortedKeys]
      simp only [configMapData]
      cases x.data.get? k <;> simp
    · simp only [configMapData, hwhole, if_true]
  keys := by
    intro ref x ks hwhole hkeys
    simp [configMapData, hwhole, hkeys]

/-! ## What the digest depends on -/

/-- Two pod specs consume the same objects, as a whole or by the same keys. -/
structure SameUse (R : RefKind) (spec spec' : PodSpec) : Prop where
  whole : ∀ name, Consumes R spec name .whole ↔ Consumes R spec' name .whole
  keys : ∀ name, ¬ Consumes R spec name .whole →
    ∀ k, Consumes R spec name (.key k) ↔ Consumes R spec' name (.key k)

/-- The pod depends on what is under the key `k` of the named object. -/
def ConsumesKey (R : RefKind) (spec : PodSpec) (name k : String) : Prop :=
  Consumes R spec name .whole ∨ Consumes R spec name (.key k)

/-- Two reads of one object give the same failure, find no object both, or find objects with the
same values under the keys in question. -/
def SameRead {Obj : Type} (K : DataKind Obj) (keys : String → Prop) :
    Except StatusError (Option Obj) → Except StatusError (Option Obj) → Prop
  | .error e, .error e' => e = e'
  | .ok none, .ok none => True
  | .ok (some x), .ok (some y) => ∀ k, keys k → K.value x k = K.value y k
  | _, _ => False

/-- Two clusters agree on what a pod in the namespace consumes. -/
def Agree {Obj : Type} (K : DataKind Obj) (ns : String) (spec : PodSpec)
    (c c' : DataReader Obj) : Prop :=
  ∀ name, (∃ u, Consumes K.refs spec name u) →
    SameRead K (ConsumesKey K.refs spec name) (present (c ⟨ns, name⟩)) (present (c' ⟨ns, name⟩))

section

variable {Obj : Type} {K : DataKind Obj} {spec spec' : PodSpec}

variable {R : RefKind}

theorem SameUse.exists_iff (h : SameUse R spec spec') (name : String) :
    (∃ u, Consumes R spec name u) ↔ ∃ u, Consumes R spec' name u := by
  by_cases hw : Consumes R spec name .whole
  · exact ⟨fun _ => ⟨_, (h.whole name).mp hw⟩, fun _ => ⟨_, hw⟩⟩
  · have hw' : ¬ Consumes R spec' name .whole := fun hc => hw ((h.whole name).mpr hc)
    constructor
    · rintro ⟨u, hu⟩
      cases u with
      | whole => exact absurd hu hw
      | key k => exact ⟨_, (h.keys name hw k).mp hu⟩
    · rintro ⟨u, hu⟩
      cases u with
      | whole => exact absurd hu hw'
      | key k => exact ⟨_, (h.keys name hw k).mpr hu⟩

theorem SameUse.of_mem (h : ∀ use, use ∈ podUses R spec ↔ use ∈ podUses R spec') :
    SameUse R spec spec' := by
  constructor
  · intro name
    unfold Consumes
    rw [h]
  · intro name _ k
    unfold Consumes
    rw [h]

/-- Containers, init containers and volumes may come in any order. -/
theorem SameUse.of_perm
    (hcontainers : (spec.containers ++ spec.initContainers).Perm
      (spec'.containers ++ spec'.initContainers))
    (hvolumes : spec.volumes.Perm spec'.volumes) : SameUse R spec spec' := by
  apply SameUse.of_mem
  intro use
  unfold podUses
  rw [List.mem_append, List.mem_append]
  exact or_congr (hcontainers.flatMap_right _).mem_iff (hvolumes.flatMap_right _).mem_iff

theorem SameUse.sortedKeys (h : SameUse R spec spec') :
    (podSpecRefs R spec).sortedKeys = (podSpecRefs R spec').sortedKeys := by
  refine StrMap.sortedKeys_congr (refsOk_podSpecRefs R spec).distinct
    (refsOk_podSpecRefs R spec').distinct ?_
  intro name
  rw [isSome_podSpecRefs, isSome_podSpecRefs]
  exact h.exists_iff name

theorem DataRef.Ok.keys_of_not_whole {d : DataRef} (h : d.Ok) (hw : d.whole = false) :
    ∃ ks k, d.keys = some ks ∧ ks.Distinct ∧ (ks.get? k).isSome ∧
      ∀ k', d.Has (.key k') ↔ (ks.get? k').isSome := by
  obtain ⟨u, hu⟩ := h.used
  cases u with
  | whole => exact absurd hu (by simp [DataRef.Has, hw])
  | key k =>
    have hd := h.distinct
    unfold DataRef.Has at hu
    rcases hkeys : d.keys with _ | ks
    · simp [hkeys, StrMap.get?] at hu
    rw [hkeys] at hd hu
    refine ⟨ks, k, rfl, hd, hu, ?_⟩
    intro k'
    simp [DataRef.Has, hkeys]

theorem keyFields_congr {x y : Obj} {k : String} (h : K.value x k = K.value y k) :
    keyFields K x k = keyFields K y k := by
  unfold keyFields
  rw [h]

theorem wanted_congr (hK : K.Lawful) {name : String} {d d' : DataRef} {x y : Obj}
    (huse : SameUse K.refs spec spec')
    (hd : (podSpecRefs K.refs spec).get? name = some d)
    (hd' : (podSpecRefs K.refs spec').get? name = some d')
    (hxy : ∀ k, ConsumesKey K.refs spec name k → K.value x k = K.value y k) :
    K.wanted d x = K.wanted d' y ∧ ∀ k ∈ K.wanted d x, ConsumesKey K.refs spec name k := by
  have hhas := has_podSpecRefs hd
  have hhas' := has_podSpecRefs hd'
  have hw : d.whole = true ↔ d'.whole = true :=
    ((hhas .whole).trans (huse.whole name)).trans (hhas' .whole).symm
  cases hwhole : d.whole with
  | true =>
    have hcons : Consumes K.refs spec name .whole := (hhas .whole).mp hwhole
    obtain ⟨ks, hnd, hmem, hwant⟩ := hK.whole d x hwhole
    obtain ⟨ks', hnd', hmem', hwant'⟩ := hK.whole d' y (hw.mp hwhole)
    refine ⟨?_, fun k _ => Or.inl hcons⟩
    rw [hwant, hwant']
    refine StrMap.sorted_congr hnd hnd' ?_
    intro k
    rw [hmem, hmem', hxy k (Or.inl hcons)]
  | false =>
    have hwhole' : d'.whole = false := by
      cases hb : d'.whole with
      | false => rfl
      | true => exact absurd (hw.mpr hb) (by simp [hwhole])
    have hncons : ¬ Consumes K.refs spec name .whole := by
      intro hc
      exact absurd ((hhas .whole).mpr hc) (by simp [DataRef.Has, hwhole])
    obtain ⟨ks, -, hks, hnd, -, hget⟩ :=
      ((refsOk_podSpecRefs _ _).ok name d hd).keys_of_not_whole hwhole
    obtain ⟨ks', -, hks', hnd', -, hget'⟩ :=
      ((refsOk_podSpecRefs _ _).ok name d' hd').keys_of_not_whole hwhole'
    rw [hK.keys d x ks hwhole hks, hK.keys d' y ks' hwhole' hks']
    constructor
    · refine StrMap.sortedKeys_congr hnd hnd' ?_
      intro k
      rw [← hget, ← hget', hhas, hhas']
      exact huse.keys name hncons k
    · intro k hk
      have hkey : d.Has (.key k) := (hget k).mpr (StrMap.mem_sortedKeys.mp hk)
      exact Or.inr ((hhas _).mp hkey)

theorem bodyFields_congr (hK : K.Lawful) {name : String} {d d' : DataRef} {x y : Option Obj}
    (huse : SameUse K.refs spec spec')
    (hd : (podSpecRefs K.refs spec).get? name = some d)
    (hd' : (podSpecRefs K.refs spec').get? name = some d')
    (hxy : SameRead K (ConsumesKey K.refs spec name) (.ok x) (.ok y)) :
    bodyFields K d x = bodyFields K d' y := by
  cases x with
  | none =>
    cases y with
    | none => rfl
    | some y => exact hxy.elim
  | some x =>
    rcases y with _ | y
    · exact hxy.elim
    obtain ⟨hwanted, hconsumed⟩ := wanted_congr hK huse hd hd' hxy
    show (K.wanted d x).flatMap (keyFields K x) = (K.wanted d' y).flatMap (keyFields K y)
    rw [← hwanted]
    apply List.flatMap_congr
    intro k hk
    exact keyFields_congr (hxy k (hconsumed k hk))

theorem hashFields_congr (hK : K.Lawful) {ns : String} {c c' : DataReader Obj}
    (huse : SameUse K.refs spec spec') (hag : Agree K ns spec c c') {names : List String}
    (hnames : ∀ name ∈ names, ∃ u, Consumes K.refs spec name u) :
    hashFields K c ns (podSpecRefs K.refs spec) names =
      hashFields K c' ns (podSpecRefs K.refs spec') names := by
  induction names with
  | nil => rfl
  | cons name names ih =>
    have hrest := ih (fun n hn => hnames n (List.mem_cons_of_mem _ hn))
    have hname := hnames name List.mem_cons_self
    have hread := hag name hname
    obtain ⟨d, hd⟩ := Option.isSome_iff_exists.mp (isSome_podSpecRefs.mpr hname)
    obtain ⟨d', hd'⟩ := Option.isSome_iff_exists.mp
      (isSome_podSpecRefs.mpr ((huse.exists_iff name).mp hname))
    unfold hashFields
    cases hp : present (c ⟨ns, name⟩) with
    | error e =>
      rw [hp] at hread
      cases hp' : present (c' ⟨ns, name⟩) with
      | error e' =>
        rw [hp'] at hread
        obtain rfl : e = e' := hread
        rfl
      | ok y =>
        rw [hp'] at hread
        exact hread.elim
    | ok x =>
      rw [hp] at hread
      cases hp' : present (c' ⟨ns, name⟩) with
      | error e' =>
        rw [hp'] at hread
        cases x <;> exact hread.elim
      | ok y =>
        rw [hp'] at hread
        have hbody := bodyFields_congr hK huse hd hd' hread
        simp only [hrest, hd, hd', Option.getD_some, hbody]

theorem podTemplateHash_congr (hK : K.Lawful) (sum : Bytes → String) {ns : String}
    {c c' : DataReader Obj} (huse : SameUse K.refs spec spec') (hag : Agree K ns spec c c') :
    podTemplateHash K sum c ns spec = podTemplateHash K sum c' ns spec' := by
  have hkeys := huse.sortedKeys
  have hnames : ∀ name ∈ (podSpecRefs K.refs spec).sortedKeys,
      ∃ u, Consumes K.refs spec name u := by
    intro name hname
    exact isSome_podSpecRefs.mp (StrMap.mem_sortedKeys.mp hname)
  have hempty : (podSpecRefs K.refs spec).isEmpty = (podSpecRefs K.refs spec').isEmpty := by
    rw [← StrMap.isEmpty_sortedKeys, ← StrMap.isEmpty_sortedKeys, hkeys]
  have hfields := hashFields_congr hK huse hag hnames
  unfold podTemplateHash hashStream
  dsimp only
  rw [hempty, hfields, hkeys]

end

/-- **No spurious rollout.** Two pod specs that consume the same objects by the same keys, in
clusters that agree on what they consume, have the same digests, whatever else is in the specs and
the clusters. -/
theorem no_spurious_rollout (sum : Bytes → String) (ns : String) (spec spec' : PodSpec)
    (secrets secrets' : DataReader SecretData) (maps maps' : DataReader ConfigMapData)
    (hsecretUse : SameUse secretRefs spec spec') (hmapUse : SameUse configMapRefs spec spec')
    (hsecrets : Agree secretData ns spec secrets secrets')
    (hmaps : Agree configMapData ns spec maps maps') :
    podTemplateSecretHash sum secrets ns spec = podTemplateSecretHash sum secrets' ns spec' ∧
      podTemplateConfigMapHash sum maps ns spec = podTemplateConfigMapHash sum maps' ns spec' :=
  ⟨podTemplateHash_congr secretData_lawful sum hsecretUse hsecrets,
    podTemplateHash_congr configMapData_lawful sum hmapUse hmaps⟩

namespace Sample

def proxy : Container where
  name := "litellm"
  env := [⟨"LITELLM_MASTER_KEY", "", some { secretKeyRef := some ⟨"keys", "master"⟩ }⟩]

def migration : Container where
  name := "migrate"
  envFrom := [{ secretRef := some "database" }, { configMapRef := some "settings" }]

def pod : PodSpec where
  containers := [proxy]
  initContainers := [migration]
  volumes := [{ name := "config", configMap := some ⟨"proxy-config", []⟩ }]

/-- The same two containers, now side by side, and an image pull Secret. -/
def podReordered : PodSpec where
  imagePullSecrets := ["registry"]
  containers := [migration, proxy]
  volumes := [{ name := "config", configMap := some ⟨"proxy-config", []⟩ }]

/-- A cluster with one object of a kind. -/
def holding {Obj : Type} (name : String) (x : Obj) : DataReader Obj := fun key =>
  if key.name = name then .ok x else .error ⟨.notFound, "not found"⟩

def keys : SecretData where
  data := [("master", [1]), ("unused", [2])]

def keysEdited : SecretData where
  data := [("unused", [3]), ("master", [1])]

def config : ConfigMapData where
  data := [("proxy_server_config.yaml", "model_list: []")]

def asText (bs : Bytes) : String := String.ofList (bs.map (fun b => Char.ofNat b.toNat))

end Sample

/-- The containers in another order, another pull Secret and an edit of an unused key: the digests
stay. -/
theorem no_spurious_rollout_reordered :
    podTemplateSecretHash Sample.asText (Sample.holding "keys" Sample.keys) "ai" Sample.pod =
        podTemplateSecretHash Sample.asText (Sample.holding "keys" Sample.keysEdited) "ai"
          Sample.podReordered ∧
      podTemplateConfigMapHash Sample.asText (Sample.holding "proxy-config" Sample.config) "ai"
          Sample.pod =
        podTemplateConfigMapHash Sample.asText (Sample.holding "proxy-config" Sample.config) "ai"
          Sample.podReordered := by
  have huse : ∀ R, SameUse R Sample.pod Sample.podReordered := by
    intro R
    exact SameUse.of_perm (List.Perm.swap _ _ _) (List.Perm.refl _)
  refine no_spurious_rollout _ _ _ _ _ _ _ _ (huse _) (huse _) ?_ ?_
  · intro name hname
    by_cases hkeys : name = "keys"
    · subst hkeys
      -- of this Secret the pod takes one key
      intro k hk
      have hmaster : k = "master" := by
        rcases hk with hwhole | hkey
        · exact absurd hwhole (by decide)
        · simpa [Consumes, podUses, containerUses, volumeUses, Sample.pod, Sample.proxy,
            Sample.migration, secretData, secretRefs] using hkey
      subst hmaster
      rfl
    · simp [Sample.holding, hkeys, present, SameRead]
  · intro name hname
    by_cases hconfig : name = "proxy-config"
    · subst hconfig
      intro k _
      rfl
    · simp [Sample.holding, hconfig, present, SameRead]

end LitellmOperator
