import LitellmOperator.Rollout.Digest

/-! # Which edits a digest can miss

The fields of a digest can be told apart (`fields_injective`), but not always which object a field
belongs to: the number of keys of an object is not written, and a missing key is marked by a value
that a key can also have. So a digest is sure to see every edit only for a pod that consumes a
single object, and consumes it as a whole (`missesNothing_iff`).
-/

set_option autoImplicit false

namespace LitellmOperator

open Go Kube

/-! ## Clusters without read failures -/

/-- The objects of one kind in a cluster. -/
abbrev Cluster (Obj : Type) : Type := NamespacedName → Option Obj

def Cluster.reader {Obj : Type} (s : Cluster Obj) : DataReader Obj := fun key =>
  match s key with
  | some x => .ok x
  | none => .error ⟨.notFound, "not found"⟩

section

variable {Obj : Type} (K : DataKind Obj) (ns : String) (spec : PodSpec)

variable (s : Cluster Obj)

@[simp] theorem present_reader (key : NamespacedName) : present (s.reader key) = .ok (s key) := by
  unfold Cluster.reader
  cases s key <;> rfl

/-- The fields of one object of a cluster. -/
def objectFields (refs : StrMap DataRef) (s : Cluster Obj) (name : String) : List Bytes :=
  bytesOf name :: bodyFields K ((refs.get? name).getD {}) (s ⟨ns, name⟩)

theorem hashFields_reader (refs : StrMap DataRef) (names : List String) :
    hashFields K s.reader ns refs names = .ok (names.flatMap (objectFields K ns refs s)) := by
  induction names with
  | nil => rfl
  | cons name names ih =>
    unfold hashFields
    rw [present_reader, ih]
    rfl

theorem hashStream_reader :
    hashStream K s.reader ns spec = .ok (fields ((podSpecRefs K.refs spec).sortedKeys.flatMap
      (objectFields K ns (podSpecRefs K.refs spec) s))) := by
  unfold hashStream
  dsimp only
  rw [hashFields_reader]
  rfl

/-- No two clusters that differ in what the pod consumes have the same bytes hashed. -/
def MissesNothing : Prop := ∀ s s' : Cluster Obj, ¬ Agree K ns spec s.reader s'.reader →
    hashStream K s.reader ns spec ≠ hashStream K s'.reader ns spec

/-- The pod consumes at most one object, and that as a whole. -/
def SoleWhole (R : RefKind) (spec : PodSpec) : Prop :=
  ∀ name u name' u', Consumes R spec name u → Consumes R spec name' u' →
    name = name' ∧ Consumes R spec name .whole

/-- The keys a use names. -/
def Use.keys : Use → List String
  | whole => []
  | key k => [k]

/-- The names and keys the pod refers to have lengths that fit a machine word, as all Go strings
have. -/
def UsesSized (R : RefKind) (spec : PodSpec) : Prop := ∀ name u, Consumes R spec name u →
    Sized (bytesOf name) ∧ ∀ k ∈ u.keys, Sized (bytesOf k)

end

/-- What objects there can be: their keys and values are sized, and there are objects with no key
and with any one key. -/
structure DataKind.Full {Obj : Type} (K : DataKind Obj) : Prop extends K.Lawful where
  sized : ∀ x k v, K.value x k = some v → Sized (bytesOf k) ∧ Sized v
  empty : ∃ x, ∀ k, K.value x k = none
  single : ∀ k v, Sized (bytesOf k) → Sized v →
    ∃ x, ∀ k', K.value x k' = if k' = k then some v else none

theorem mem_of_get? {V : Type} {m : StrMap V} {k : String} {v : V} (h : m.get? k = some v) :
    (k, v) ∈ m := by
  induction m with
  | nil => cases h
  | cons e m ih =>
    obtain ⟨k', v'⟩ := e
    rw [StrMap.get?_cons] at h
    split at h
    · rename_i heq
      cases h
      simp [heq]
    · exact List.mem_cons_of_mem _ (ih h)

theorem get?_single {V : Type} (k k' : String) (v : V) :
    StrMap.get? [(k, v)] k' = if k' = k then some v else none := by
  rw [StrMap.get?_cons]
  simp only [eq_comm, StrMap.get?, List.lookup_nil]

theorem secretData_full : secretData.Full where
  toLawful := secretData_lawful
  sized := by
    intro x k v h
    exact x.sized (k, v) (mem_of_get? h)
  empty := ⟨{}, fun k => rfl⟩
  single := by
    intro k v hk hv
    let x : SecretData :=
      { data := [(k, v)]
        distinct := List.nodup_singleton _
        sized := by
          intro e he
          obtain rfl := List.mem_singleton.mp he
          exact ⟨hk, hv⟩ }
    exact ⟨x, fun k' => get?_single k k' v⟩

theorem configMapData_full : configMapData.Full where
  toLawful := configMapData_lawful
  sized := by
    intro x k v h
    unfold configMapData at h
    dsimp only at h
    split at h
    · rename_i t ht
      cases h
      exact x.sized (k, t) (mem_of_get? ht)
    · exact x.binarySized (k, v) (mem_of_get? h)
  empty := ⟨{}, fun k => rfl⟩
  single := by
    intro k v hk hv
    let x : ConfigMapData :=
      { data := []
        binaryData := [(k, v)]
        distinct := List.nodup_singleton _
        sized := by simp
        binarySized := by
          intro e he
          obtain rfl := List.mem_singleton.mp he
          exact ⟨hk, hv⟩ }
    exact ⟨x, fun k' => get?_single k k' v⟩

/-! ## A single object, as a whole -/

variable {spec : PodSpec}

section

variable {Obj : Type} {K : DataKind Obj}

theorem length_keyPairs (x : Obj) (ks : List String) :
    (ks.flatMap (keyFields K x)).length = 2 * ks.length := by
  induction ks with
  | nil => rfl
  | cons k ks ih =>
    rw [List.flatMap_cons, List.length_append, ih]
    simp only [keyFields, List.length_cons, List.length_nil]
    omega

/-- The pairs of one object can be read back: the keys, and the value or mark of each. -/
theorem keyPairs_inj {x y : Obj} {ks ls : List String}
    (h : ks.flatMap (keyFields K x) = ls.flatMap (keyFields K y)) :
    ks = ls ∧ ∀ k ∈ ks, (K.value x k).getD missingMark = (K.value y k).getD missingMark := by
  induction ks generalizing ls with
  | nil =>
    cases ls with
    | nil => exact ⟨rfl, by simp⟩
    | cons l ls => cases h
  | cons k ks ih =>
    cases ls with
    | nil => cases h
    | cons l ls =>
      simp only [List.flatMap_cons, keyFields, List.cons_append, List.nil_append,
        List.cons.injEq] at h
      obtain ⟨hkey, hval, hrest⟩ := h
      obtain rfl := bytesOf_injective hkey
      obtain ⟨rfl, hvals⟩ := ih hrest
      refine ⟨rfl, ?_⟩
      intro k' hk'
      rcases List.mem_cons.mp hk' with rfl | hk'
      · exact hval
      · exact hvals k' hk'

variable {ref : DataRef}

theorem sized_bodyFields (hK : K.Full) (hwhole : ref.whole = true) (x : Option Obj) :
    ∀ p ∈ bodyFields K ref x, Sized p := by
  cases x with
  | none =>
    intro p hp
    obtain rfl := List.mem_singleton.mp hp
    decide
  | some x =>
    intro p hp
    obtain ⟨ks, -, hmem, hwanted⟩ := hK.whole ref x hwhole
    obtain ⟨k, hk, hp⟩ := List.mem_flatMap.mp hp
    rw [hwanted, StrMap.mem_sorted, hmem] at hk
    obtain ⟨v, hv⟩ := Option.isSome_iff_exists.mp hk
    have hsized := hK.sized x k v hv
    simp only [keyFields, hv, Option.getD_some, List.mem_cons, List.not_mem_nil, or_false] at hp
    rcases hp with rfl | rfl
    · exact hsized.1
    · exact hsized.2

/-- The fields of a whole object tell what is in it, and whether it is there. -/
theorem sameRead_of_bodyFields (hK : K.Full) (hwhole : ref.whole = true) {x y : Option Obj}
    (h : bodyFields K ref x = bodyFields K ref y) (keys : String → Prop) :
    SameRead K keys (.ok x) (.ok y) := by
  -- the mark of an absent object is one field, the pairs of a present one are an even number
  have hodd : ∀ z : Obj, [absentMark] ≠ (K.wanted ref z).flatMap (keyFields K z) := by
    intro z hz
    have hlen := congrArg List.length hz
    rw [length_keyPairs] at hlen
    simp only [List.length_cons, List.length_nil] at hlen
    omega
  cases x with
  | none =>
    cases y with
    | none => trivial
    | some y => exact absurd h (hodd y)
  | some x =>
    rcases y with _ | y
    · exact absurd h.symm (hodd x)
    obtain ⟨ks, -, hmem, hwanted⟩ := hK.whole ref x hwhole
    obtain ⟨ls, -, hmem', hwanted'⟩ := hK.whole ref y hwhole
    obtain ⟨hkeys, hvals⟩ := keyPairs_inj h
    intro k _
    have hiff : (K.value x k).isSome ↔ (K.value y k).isSome := by
      rw [← hmem, ← hmem', ← StrMap.mem_sorted, ← hwanted, hkeys, hwanted', StrMap.mem_sorted]
    cases hx : K.value x k with
    | none =>
      cases hy : K.value y k with
      | none => rfl
      | some w => simp [hx, hy] at hiff
    | some v =>
      rcases hy : K.value y k with _ | w
      · simp [hx, hy] at hiff
      have hk : k ∈ K.wanted ref x := by
        rw [hwanted, StrMap.mem_sorted, hmem, hx]
        rfl
      have heq := hvals k hk
      rw [hx, hy] at heq
      exact congrArg some heq

theorem SoleWhole.sortedKeys {R : RefKind} (h : SoleWhole R spec) {name : String} {u : Use}
    (hname : Consumes R spec name u) : (podSpecRefs R spec).sortedKeys = [name] := by
  have hmem : ∀ name', name' ∈ (podSpecRefs R spec).keys ↔ name' ∈ [name] := by
    intro name'
    rw [StrMap.mem_keys, isSome_podSpecRefs, List.mem_singleton]
    constructor
    · rintro ⟨u', hu'⟩
      exact (h name' u' name u hu' hname).1
    · rintro rfl
      exact ⟨u, hname⟩
  exact StrMap.sorted_congr (refsOk_podSpecRefs R spec).distinct (List.nodup_singleton name) hmem

variable {ns : String}

theorem SoleWhole.missesNothing (hK : K.Full) (h : SoleWhole K.refs spec) :
    MissesNothing K ns spec := by
  intro s s' hdiffer heq
  apply hdiffer
  rintro name ⟨u, hu⟩
  have hwhole := (h name u name u hu hu).2
  obtain ⟨d, hd, hdwhole⟩ := (recorded_podSpecRefs K.refs spec name .whole).mpr hwhole
  rw [hashStream_reader, hashStream_reader, h.sortedKeys hu] at heq
  have hfields := Except.ok.inj heq
  simp only [List.flatMap_cons, List.flatMap_nil, List.append_nil, objectFields, hd,
    Option.getD_some, fields_cons] at hfields
  have hbody := fields_injective (sized_bodyFields hK hdwhole _) (sized_bodyFields hK hdwhole _)
    (List.append_cancel_left hfields)
  rw [present_reader, present_reader]
  exact sameRead_of_bodyFields hK hdwhole hbody _

/-! ## Collisions -/

theorem hashStream_eq {s s' : Cluster Obj}
    (h : ∀ name ∈ (podSpecRefs K.refs spec).sortedKeys,
      objectFields K ns (podSpecRefs K.refs spec) s name =
        objectFields K ns (podSpecRefs K.refs spec) s' name) :
    hashStream K s.reader ns spec = hashStream K s'.reader ns spec := by
  rw [hashStream_reader, hashStream_reader, List.flatMap_congr h]

/-- The cluster whose only object is `x`. -/
def only (ns name : String) (x : Obj) : Cluster Obj := fun key =>
  if key = ⟨ns, name⟩ then some x else none

@[simp] theorem only_self (ns name : String) (x : Obj) : only ns name x ⟨ns, name⟩ = some x :=
  if_pos rfl

theorem only_ne {ns name name' : String} (h : name' ≠ name) (x : Obj) :
    only ns name x ⟨ns, name'⟩ = none := by
  refine if_neg ?_
  intro heq
  exact h (NamespacedName.mk.inj heq).2

/-- A key consumed by name can hold the mark of a missing key. -/
theorem MissesNothing.whole (hK : K.Full) (hsized : UsesSized K.refs spec)
    (h : MissesNothing K ns spec) {name : String} {u : Use} (hu : Consumes K.refs spec name u) :
    Consumes K.refs spec name .whole := by
  by_contra hwhole
  cases u with
  | whole => exact hwhole hu
  | key k =>
    obtain ⟨x, hx⟩ := hK.empty
    obtain ⟨y, hy⟩ := hK.single k missingMark ((hsized name _ hu).2 k List.mem_cons_self) (by decide)
    obtain ⟨d, hd⟩ := Option.isSome_iff_exists.mp (isSome_podSpecRefs.mpr ⟨_, hu⟩)
    have hdwhole : d.whole = false := by
      cases hb : d.whole with
      | false => rfl
      | true => exact absurd ((has_podSpecRefs hd .whole).mp hb) hwhole
    obtain ⟨ks, -, hks, -⟩ := ((refsOk_podSpecRefs _ _).ok name d hd).keys_of_not_whole hdwhole
    refine h (only ns name x) (only ns name y) ?_ (hashStream_eq ?_)
    · -- the key is missing in one cluster and there in the other
      intro hag
      have hread := hag name ⟨_, hu⟩
      rw [present_reader, present_reader, only_self, only_self] at hread
      have hval := hread k (Or.inr hu)
      rw [hx, hy, if_pos rfl] at hval
      cases hval
    · intro name' _
      unfold objectFields
      by_cases hn : name' = name
      · subst hn
        rw [only_self, only_self, hd]
        congr 1
        show (K.wanted d x).flatMap (keyFields K x) = (K.wanted d y).flatMap (keyFields K y)
        rw [hK.keys d x ks hdwhole hks, hK.keys d y ks hdwhole hks]
        apply List.flatMap_congr
        intro k' _
        unfold keyFields
        rw [hx, hy]
        split <;> rfl
      · rw [only_ne hn, only_ne hn]

theorem bodyFields_empty (hK : K.Full) (hwhole : ref.whole = true) {x : Obj}
    (hx : ∀ k, K.value x k = none) : bodyFields K ref (some x) = [] := by
  obtain ⟨ks, -, hmem, hwanted⟩ := hK.whole ref x hwhole
  have hnil : ks = [] := by
    apply List.eq_nil_iff_forall_not_mem.mpr
    intro k hk
    have hsome := (hmem k).mp hk
    rw [hx] at hsome
    cases hsome
  unfold bodyFields
  dsimp only
  rw [hwanted, hnil]
  rfl

theorem bodyFields_single (hK : K.Full) (hwhole : ref.whole = true) {x : Obj} {k : String}
    {v : Bytes} (hx : ∀ k', K.value x k' = if k' = k then some v else none) :
    bodyFields K ref (some x) = [bytesOf k, v] := by
  obtain ⟨ks, hnd, hmem, hwanted⟩ := hK.whole ref x hwhole
  have hsorted : StrMap.sorted ks = [k] := by
    refine StrMap.sorted_congr hnd (List.nodup_singleton k) ?_
    intro k'
    rw [hmem, hx, List.mem_singleton]
    split <;> simp_all
  unfold bodyFields
  dsimp only
  rw [hwanted, hsorted]
  simp [keyFields, hx]

/-- Two objects of a cluster. -/
def both (ns name name' : String) (x y : Obj) : Cluster Obj := fun key =>
  if key = ⟨ns, name⟩ then some x else only ns name' y key

/-- The fields of an object can pass for the name and the fields of the next. -/
theorem MissesNothing.sole (hK : K.Full) (hsized : UsesSized K.refs spec)
    (h : MissesNothing K ns spec) {a b : String} {rest : List String}
    (hkeys : (podSpecRefs K.refs spec).sortedKeys = a :: b :: rest) : False := by
  have hmem : ∀ name, name ∈ a :: b :: rest → Consumes K.refs spec name .whole := by
    intro name hname
    rw [← hkeys] at hname
    obtain ⟨u, hu⟩ := isSome_podSpecRefs.mp (StrMap.mem_sortedKeys.mp hname)
    exact h.whole hK hsized hu
  have ha := hmem a (by simp)
  have hb := hmem b (by simp)
  have hnodup : (a :: b :: rest).Nodup := by
    rw [← hkeys]
    exact StrMap.nodup_sortedKeys (refsOk_podSpecRefs _ _).distinct
  obtain ⟨hab, hbrest⟩ := List.nodup_cons.mp hnodup
  have hne : b ≠ a := by
    rintro rfl
    exact hab List.mem_cons_self
  obtain ⟨da, hda, hdawhole⟩ := (recorded_podSpecRefs K.refs spec a .whole).mpr ha
  obtain ⟨db, hdb, hdbwhole⟩ := (recorded_podSpecRefs K.refs spec b .whole).mpr hb
  obtain ⟨x, hx⟩ := hK.empty
  -- `b` as a key of `a`, against `b` as the value of a key of `b`
  obtain ⟨y, hy⟩ := hK.single "k" (bytesOf b) (by decide) (hsized b _ hb).1
  obtain ⟨z, hz⟩ := hK.single b (bytesOf "k") (hsized b _ hb).1 (by decide)
  have hbkey : (⟨ns, b⟩ : NamespacedName) ≠ ⟨ns, a⟩ := by
    intro heq
    exact hne (NamespacedName.mk.inj heq).2
  have hat : ∀ p q : Obj, both ns a b p q ⟨ns, a⟩ = some p := fun p q => if_pos rfl
  have hbt : ∀ p q : Obj, both ns a b p q ⟨ns, b⟩ = some q := fun p q =>
    (if_neg hbkey).trans (only_self ns b q)
  refine h (both ns a b x y) (both ns a b z x) ?_ ?_
  · intro hag
    have hread := hag a ⟨_, ha⟩
    rw [present_reader, present_reader, hat, hat] at hread
    have hval := hread b (Or.inl ha)
    rw [hx, hz, if_pos rfl] at hval
    cases hval
  · have hrest : rest.flatMap (objectFields K ns (podSpecRefs K.refs spec) (both ns a b x y)) =
        rest.flatMap (objectFields K ns (podSpecRefs K.refs spec) (both ns a b z x)) := by
      apply List.flatMap_congr
      intro name hname
      have hna : (⟨ns, name⟩ : NamespacedName) ≠ ⟨ns, a⟩ := by
        intro heq
        obtain rfl := (NamespacedName.mk.inj heq).2
        exact hab (List.mem_cons_of_mem _ hname)
      have hnb : name ≠ b := by
        rintro rfl
        exact (List.nodup_cons.mp hbrest).1 hname
      unfold objectFields both
      rw [if_neg hna, if_neg hna, only_ne hnb, only_ne hnb]
    rw [hashStream_reader, hashStream_reader, hkeys]
    simp only [List.flatMap_cons, hrest]
    simp only [objectFields, hat, hbt, hda, hdb, Option.getD_some,
      bodyFields_empty hK hdawhole hx, bodyFields_empty hK hdbwhole hx,
      bodyFields_single hK hdawhole hz, bodyFields_single hK hdbwhole hy, List.cons_append,
      List.nil_append]

/-- A digest misses no edit exactly for the pods that consume one object as a whole, or none. -/
theorem missesNothing_iff (hK : K.Full) (hsized : UsesSized K.refs spec) :
    MissesNothing K ns spec ↔ SoleWhole K.refs spec := by
  refine ⟨?_, fun h => h.missesNothing hK⟩
  intro h name u name' u' hu hu'
  refine ⟨?_, h.whole hK hsized hu⟩
  have hname := StrMap.mem_sortedKeys.mpr (isSome_podSpecRefs.mpr ⟨u, hu⟩)
  have hname' := StrMap.mem_sortedKeys.mpr (isSome_podSpecRefs.mpr ⟨u', hu'⟩)
  cases hkeys : (podSpecRefs K.refs spec).sortedKeys with
  | nil =>
    rw [hkeys] at hname
    cases hname
  | cons a rest =>
    cases rest with
    | nil =>
      rw [hkeys] at hname hname'
      rw [List.mem_singleton.mp hname, List.mem_singleton.mp hname']
    | cons b rest => exact (h.sole hK hsized hkeys).elim

end

theorem usesSized_of_forall {R : RefKind}
    (h : ∀ use ∈ podUses R spec, Sized (bytesOf use.1) ∧ ∀ k ∈ use.2.keys, Sized (bytesOf k)) :
    UsesSized R spec := by
  rintro name u ⟨-, hu⟩
  exact h (name, u) hu

/-- **When no rollout is missed.** For a pod spec, the bytes hashed differ between any two clusters
that differ in what the pod consumes exactly if the pod consumes at most one Secret, respectively
ConfigMap, and that as a whole. -/
theorem no_missed_rollout_iff (ns : String) (spec : PodSpec) (hsecrets : UsesSized secretRefs spec)
    (hmaps : UsesSized configMapRefs spec) :
    (MissesNothing secretData ns spec ↔ SoleWhole secretRefs spec) ∧
      (MissesNothing configMapData ns spec ↔ SoleWhole configMapRefs spec) :=
  ⟨missesNothing_iff secretData_full hsecrets, missesNothing_iff configMapData_full hmaps⟩

namespace Sample

/-- A pod that takes all of two Secrets. -/
def twoSecrets : PodSpec where
  containers := [{ name := "litellm"
                   envFrom := [{ secretRef := some "first" }, { secretRef := some "second" }] }]

/-- A pod that takes all of one Secret and of two ConfigMaps. -/
def oneSecret : PodSpec where
  containers := [migration]
  volumes := [{ name := "config", configMap := some ⟨"proxy-config", []⟩ }]

theorem noKeys_sized : ∀ e ∈ ([] : StrMap Bytes), Sized (bytesOf e.1) ∧ Sized e.2 := by decide

def noKeys : SecretData where
  sized := noKeys_sized

/-- The Secret `keys` with its one consumed key set to the mark of a missing key. -/
def keysMarked : SecretData where
  data := [("master", bytesOf "\x00missing")]

def secondAsKey : SecretData where
  data := [("second", bytesOf "k")]

def secondAsValue : SecretData where
  data := [("k", bytesOf "second")]

end Sample

/-- With one Secret and two ConfigMaps, all consumed as a whole, no edit of the Secret is missed, and
some edit of the ConfigMaps is. -/
theorem no_missed_rollout_iff_pod :
    MissesNothing secretData "ai" Sample.oneSecret ∧
      ¬ MissesNothing configMapData "ai" Sample.oneSecret := by
  obtain ⟨hsecrets, hmaps⟩ := no_missed_rollout_iff "ai" Sample.oneSecret
    (usesSized_of_forall (by decide)) (usesSized_of_forall (by decide))
  refine ⟨hsecrets.mpr (fun name u name' u' hu hu' => ?_), fun h => ?_⟩
  · obtain ⟨rfl, -⟩ := Prod.mk.inj (List.mem_singleton.mp hu.2)
    obtain ⟨rfl, -⟩ := Prod.mk.inj (List.mem_singleton.mp hu'.2)
    exact ⟨rfl, by decide⟩
  · have hsame := hmaps.mp h "settings" .whole "proxy-config" .whole (by decide) (by decide)
    exact absurd hsame.1 (by decide)

/-- Two missed edits. A key is removed whose value was the mark of a missing key; and of two Secrets
consumed as a whole, the key and value of the first become the value and key of the second. -/
theorem missed_rollout :
    (¬ Agree secretData "ai" Sample.pod (only "ai" "keys" Sample.keysMarked).reader
          (only "ai" "keys" Sample.noKeys).reader ∧
        hashStream secretData (only "ai" "keys" Sample.keysMarked).reader "ai" Sample.pod =
          hashStream secretData (only "ai" "keys" Sample.noKeys).reader "ai" Sample.pod) ∧
      ¬ Agree secretData "ai" Sample.twoSecrets
          (both "ai" "first" "second" Sample.secondAsKey Sample.noKeys).reader
          (both "ai" "first" "second" Sample.noKeys Sample.secondAsValue).reader ∧
        hashStream secretData
            (both "ai" "first" "second" Sample.secondAsKey Sample.noKeys).reader "ai"
            Sample.twoSecrets =
          hashStream secretData
            (both "ai" "first" "second" Sample.noKeys Sample.secondAsValue).reader "ai"
            Sample.twoSecrets := by
  refine ⟨⟨?_, rfl⟩, ?_, rfl⟩
  · intro hag
    have hread := hag "keys" ⟨.key "master", by decide⟩
    have hval := hread "master" (Or.inr (by decide))
    cases hval
  · intro hag
    have hread := hag "first" ⟨.whole, by decide⟩
    have hval := hread "second" (Or.inl (by decide))
    cases hval

end LitellmOperator
