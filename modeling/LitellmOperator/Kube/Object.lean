import Mathlib.Data.Fintype.Basic
import Mathlib.Data.List.Sort
import Mathlib.Data.String.Basic

/-! # Kubernetes objects

The metadata every object carries, string maps (labels, annotations, Secret data), status
conditions, finalizers and controller references, with the helper functions controllers use on
them. A Go map is an association list; `nil` and the empty map are told apart where code can
tell them apart, by an `Option`. Clock times (`lastTransitionTime`, `creationTimestamp`) are
not modelled, and `deletionTimestamp` is only known to be set or not.
-/

set_option autoImplicit false

namespace Kube

/-! ## String maps -/

abbrev StrMap (V : Type) : Type := List (String × V)

namespace StrMap

variable {V : Type}

variable (m : StrMap V)

/-- `m[k]` with the comma-ok form. -/
def get? (k : String) : Option V := List.lookup k m

/-- `m[k] = v`. -/
def set : StrMap V → String → V → StrMap V
  | [], k, v => [(k, v)]
  | (k', v') :: m, k, v => if k' = k then (k, v) :: m else (k', v') :: set m k v

/-- `delete(m, k)`. -/
def delete (k : String) : StrMap V := m.filter (fun e => e.1 ≠ k)

/-- `maps.Equal`. -/
def equal [DecidableEq V] (m m' : StrMap V) : Bool :=
  m.length = m'.length && m.all (fun e => get? m' e.1 = some e.2)

theorem get?_cons (k k' : String) (v : V) (m : StrMap V) :
    get? ((k', v) :: m) k = if k' = k then some v else get? m k := by
  unfold get?
  rw [List.lookup_cons]
  by_cases h : k' = k
  · simp [h]
  · have h' : (k == k') = false := by simpa using fun e => h e.symm
    simp [h, h']

@[simp] theorem get?_set_self (k : String) (v : V) : get? (set m k v) k = some v := by
  induction m with
  | nil => simp [set, get?_cons]
  | cons e m ih =>
    obtain ⟨k', v'⟩ := e
    unfold set
    by_cases h : k' = k
    · simp [h, get?_cons]
    · simp [h, get?_cons, ih]

theorem get?_set_ne {k k' : String} (v : V) (h : k ≠ k') : get? (set m k v) k' = get? m k' := by
  induction m with
  | nil => simp [set, get?_cons, h]
  | cons e m ih =>
    obtain ⟨k₀, v₀⟩ := e
    unfold set
    by_cases h₀ : k₀ = k
    · subst h₀
      simp [get?_cons, h]
    · simp [h₀, get?_cons, ih]

theorem get?_set (k k' : String) (v : V) :
    get? (set m k v) k' = if k = k' then some v else get? m k' := by
  by_cases h : k = k'
  · rw [if_pos h, h, get?_set_self]
  · rw [if_neg h, get?_set_ne m v h]

theorem get?_delete_self (k : String) : get? (delete m k) k = none := by
  unfold delete
  induction m with
  | nil => rfl
  | cons e m ih =>
    by_cases he : e.1 = k
    · rw [List.filter_cons_of_neg (by simpa using he)]
      exact ih
    · rw [List.filter_cons_of_pos (by simpa using he), get?_cons, if_neg he]
      exact ih

theorem get?_delete_ne {k k' : String} (h : k ≠ k') : get? (delete m k) k' = get? m k' := by
  unfold delete
  induction m with
  | nil => rfl
  | cons e m ih =>
    obtain ⟨k₀, v₀⟩ := e
    by_cases h₀ : k₀ = k
    · subst h₀
      rw [List.filter_cons_of_neg (by simp), ih, get?_cons, if_neg h]
    · rw [List.filter_cons_of_pos (by simpa using h₀), get?_cons, get?_cons, ih]

end StrMap

variable (m : Option (StrMap String))

/-- `m[k]` of a `map[string]string` that may be nil: the zero value when the key is absent. -/
def lookup (k : String) : String := ((m.getD []).get? k).getD ""

/-- `if m == nil { m = map[string]string{} }; m[k] = v`. -/
def assign (k v : String) : Option (StrMap String) := some ((m.getD []).set k v)

@[simp] theorem lookup_assign_self (k v : String) :
    lookup (assign m k v) k = v := by simp [lookup, assign]

theorem lookup_assign_ne {k k' : String} (v : String) (h : k ≠ k') :
    lookup (assign m k v) k' = lookup m k' := by
  simp [lookup, assign, StrMap.get?_set_ne _ _ h]

/-! ## Metadata -/

structure OwnerReference where
  kind : String
  name : String
  uid : String
  controller : Bool
  deriving DecidableEq, Repr

structure ObjectMeta where
  name : String
  ns : String
  uid : String := ""
  resourceVersion : Nat := 0
  generation : Nat := 0
  /-- Whether `deletionTimestamp` is set. -/
  deleting : Bool := false
  finalizers : List String := []
  labels : Option (StrMap String) := none
  annotations : Option (StrMap String) := none
  ownerReferences : List OwnerReference := []
  deriving DecidableEq, Repr

structure NamespacedName where
  ns : String
  name : String
  deriving DecidableEq, Repr

def ObjectMeta.key (m : ObjectMeta) : NamespacedName := ⟨m.ns, m.name⟩

/-- `controllerutil.ContainsFinalizer`. -/
def containsFinalizer (m : ObjectMeta) (f : String) : Bool := m.finalizers.contains f

/-- `controllerutil.AddFinalizer`. -/
def addFinalizer (m : ObjectMeta) (f : String) : ObjectMeta :=
  if containsFinalizer m f then m else { m with finalizers := m.finalizers ++ [f] }

/-- `controllerutil.RemoveFinalizer`. -/
def removeFinalizer (m : ObjectMeta) (f : String) : ObjectMeta :=
  { m with finalizers := m.finalizers.filter (· ≠ f) }

/-- `metav1.GetControllerOf`. -/
def controllerOf (m : ObjectMeta) : Option OwnerReference := m.ownerReferences.find? (·.controller)

/-- `metav1.IsControlledBy`. -/
def isControlledBy (m : ObjectMeta) (owner : ObjectMeta) : Bool :=
  match controllerOf m with
  | none => false
  | some r => r.uid = owner.uid

/-- `referSameObject`. -/
def OwnerReference.referSame (a b : OwnerReference) : Bool := a.kind = b.kind && a.name = b.name

/-- `upsertOwnerRef`: `ref` takes the place of the first reference to the same object, or comes
last. -/
def upsertOwnerRef (ref : OwnerReference) : List OwnerReference → List OwnerReference
  | [] => [ref]
  | r :: refs => if r.referSame ref then ref :: refs else r :: upsertOwnerRef ref refs

/-- `controllerutil.SetControllerReference` for an owner in the same namespace: `none` when
another object already controls this one. -/
def setControllerReference (kind : String) (owner m : ObjectMeta) : Option ObjectMeta :=
  let ref : OwnerReference := ⟨kind, owner.name, owner.uid, true⟩
  let controlled := { m with ownerReferences := upsertOwnerRef ref m.ownerReferences }
  match controllerOf m with
  | some r => if r.referSame ref then some controlled else none
  | none => some controlled

/-- A custom resource with a status subresource. -/
structure Resource (Spec Status : Type) where
  metadata : ObjectMeta
  spec : Spec
  status : Status
  deriving DecidableEq, Repr

/-! ## Conditions -/

inductive ConditionStatus where
  | true
  | false
  | unknown
  deriving DecidableEq, Repr

structure Condition where
  type : String
  status : ConditionStatus
  reason : String
  message : String
  observedGeneration : Nat := 0
  deriving DecidableEq, Repr

variable (cs : List Condition)

/-- `meta.SetStatusCondition`: the condition replaces the one of its type, or is appended. -/
def setStatusCondition (c : Condition) : List Condition :=
  if cs.any (fun d => d.type = c.type)
  then cs.map (fun d => if d.type = c.type then c else d)
  else cs ++ [c]

/-- `meta.RemoveStatusCondition`. -/
def removeStatusCondition (type : String) : List Condition := cs.filter (fun d => d.type ≠ type)

/-- `meta.FindStatusCondition`. -/
def findStatusCondition (type : String) : Option Condition := cs.find? (fun d => d.type = type)

/-- `meta.IsStatusConditionTrue`. -/
def isStatusConditionTrue (type : String) : Bool :=
  (findStatusCondition cs type).any (fun d => d.status = .true)

theorem findStatusCondition_set_self (c : Condition) :
    findStatusCondition (setStatusCondition cs c) c.type = some c := by
  unfold findStatusCondition setStatusCondition
  by_cases h : cs.any (fun d => d.type = c.type) = true
  · rw [if_pos h]
    induction cs with
    | nil => cases h
    | cons d cs ih =>
      by_cases hd : d.type = c.type
      · simp [hd]
      · have hcs : cs.any (fun d => d.type = c.type) = true := by simpa [hd] using h
        simpa [hd] using ih hcs
  · rw [if_neg h]
    have hnone : cs.find? (fun d => d.type = c.type) = none := by
      simpa [List.find?_eq_none] using h
    rw [List.find?_append, hnone]
    simp

theorem find?_replaced {c : Condition} {type : String} (h : c.type ≠ type) :
    (cs.map (fun d => if d.type = c.type then c else d)).find? (fun d => d.type = type) =
      cs.find? (fun d => d.type = type) := by
  induction cs with
  | nil => rfl
  | cons d cs ih =>
    by_cases hd : d.type = c.type
    · simp [hd, h, ih]
    · by_cases hdt : d.type = type
      · simp [hdt, Ne.symm h]
      · simp [hd, hdt, ih]

theorem findStatusCondition_set_ne {c : Condition} {type : String} (h : c.type ≠ type) :
    findStatusCondition (setStatusCondition cs c) type = findStatusCondition cs type := by
  unfold findStatusCondition setStatusCondition
  split
  · exact find?_replaced cs h
  · simp [List.find?_append, h]

theorem findStatusCondition_remove_ne {type type' : String} (h : type ≠ type') :
    findStatusCondition (removeStatusCondition cs type) type' = findStatusCondition cs type' := by
  unfold findStatusCondition removeStatusCondition
  induction cs with
  | nil => rfl
  | cons d cs ih =>
    by_cases hd : d.type = type'
    · simp [hd, Ne.symm h]
    · by_cases hr : d.type = type
      · simpa [hr, h] using ih
      · simpa [hr, hd] using ih

@[simp] theorem isStatusConditionTrue_set_self (c : Condition) :
    isStatusConditionTrue (setStatusCondition cs c) c.type = decide (c.status = .true) := by
  unfold isStatusConditionTrue
  rw [findStatusCondition_set_self]
  rfl

/-! ## Errors of the API server -/

/-- The reason of an API server error, as far as controllers tell them apart. -/
inductive StatusReason where
  | notFound
  | alreadyExists
  | conflict
  | other
  deriving DecidableEq, Repr

structure StatusError where
  reason : StatusReason
  message : String
  deriving DecidableEq, Repr

/-! ## Core objects -/

structure Secret where
  metadata : ObjectMeta
  data : StrMap String
  /-- Write-only: merged into `data` by the API server. -/
  stringData : StrMap String := []
  deriving DecidableEq, Repr

structure Namespace where
  name : String
  labels : StrMap String
  deriving DecidableEq, Repr

/-! ## The keys of a string map

Go leaves the order in which it ranges over a map open, so code that needs one sorts the keys. What
comes out depends only on which keys there are (`sortedKeys_congr`), provided no key occurs twice
(`Distinct`), as none does in a Go map.
-/

namespace StrMap

variable {V W : Type}

/-- `maps.Keys`. -/
def keys (m : StrMap V) : List String := m.map Prod.fst

/-- `slices.Sorted`. -/
def sorted (ks : List String) : List String := ks.insertionSort (· ≤ ·)

/-- `slices.Sorted(maps.Keys(m))`. -/
def sortedKeys (m : StrMap V) : List String := sorted m.keys

/-- No key occurs twice. -/
def Distinct (m : StrMap V) : Prop := m.keys.Nodup

instance (m : StrMap V) : Decidable m.Distinct := inferInstanceAs (Decidable (List.Nodup _))

/-! ## Which keys there are -/

variable {m : StrMap V}

theorem mem_keys {k : String} : k ∈ m.keys ↔ (m.get? k).isSome := by
  induction m with
  | nil => simp [keys, get?]
  | cons e m ih =>
    obtain ⟨k', v⟩ := e
    rw [get?_cons]
    by_cases h : k' = k
    · simp [keys, h]
    · have hne : k ≠ k' := fun e => h e.symm
      simpa [keys, h, hne] using ih

theorem mem_keys_set {k k' : String} {v : V} : k' ∈ (m.set k v).keys ↔ k' = k ∨ k' ∈ m.keys := by
  rw [mem_keys, mem_keys]
  by_cases h : k = k'
  · subst h
    simp
  · have hne : k' ≠ k := fun e => h e.symm
    simp [get?_set_ne m v h, hne]

theorem Distinct.set (h : m.Distinct) (k : String) (v : V) : (m.set k v).Distinct := by
  induction m with
  | nil => simp [Distinct, keys, StrMap.set]
  | cons e m ih =>
    obtain ⟨k', v'⟩ := e
    obtain ⟨hhead, htail⟩ := List.nodup_cons.mp h
    unfold StrMap.set
    by_cases hk : k' = k
    · subst hk
      rw [if_pos rfl]
      exact List.nodup_cons.mpr ⟨hhead, htail⟩
    · rw [if_neg hk]
      refine List.nodup_cons.mpr ⟨?_, ih htail⟩
      intro hmem
      rcases mem_keys_set.mp hmem with heq | hm
      · exact hk heq
      · exact hhead hm

/-! ## Sorting -/

@[simp] theorem mem_sorted {ks : List String} {k : String} : k ∈ sorted ks ↔ k ∈ ks :=
  (List.perm_insertionSort _ _).mem_iff

theorem nodup_sorted {ks : List String} (h : ks.Nodup) : (sorted ks).Nodup :=
  (List.perm_insertionSort _ _).nodup_iff.mpr h

theorem sorted_congr {ks ls : List String} (hk : ks.Nodup) (hl : ls.Nodup)
    (h : ∀ k, k ∈ ks ↔ k ∈ ls) : sorted ks = sorted ls := by
  have hperm : (sorted ks).Perm (sorted ls) := (List.perm_insertionSort _ ks).trans
      (((List.perm_ext_iff_of_nodup hk hl).mpr h).trans (List.perm_insertionSort _ ls).symm)
  have hle : ∀ a b, a ∈ sorted ks → b ∈ sorted ls → a ≤ b → b ≤ a → a = b := by
    intro a b _ _ hab hba
    exact le_antisymm hab hba
  exact List.Perm.eq_of_pairwise hle (List.pairwise_insertionSort _ ks)
    (List.pairwise_insertionSort _ ls) hperm

theorem mem_sortedKeys {k : String} : k ∈ m.sortedKeys ↔ (m.get? k).isSome := by
  unfold sortedKeys
  rw [mem_sorted, mem_keys]

theorem nodup_sortedKeys (h : m.Distinct) : m.sortedKeys.Nodup := nodup_sorted h

@[simp] theorem isEmpty_sortedKeys (m : StrMap V) : m.sortedKeys.isEmpty = m.isEmpty := by
  have hlen : m.sortedKeys.length = m.length :=
    (List.perm_insertionSort _ _).length_eq.trans (List.length_map _)
  cases hm : m with
  | nil => rfl
  | cons e m' =>
    rw [← hm, List.isEmpty_eq_false_iff.mpr, List.isEmpty_eq_false_iff.mpr]
    · simp [hm]
    · intro hnil
      rw [hnil, hm] at hlen
      simp at hlen

theorem sortedKeys_congr {m' : StrMap W} (hm : m.Distinct) (hm' : m'.Distinct)
    (h : ∀ k, (m.get? k).isSome ↔ (m'.get? k).isSome) : m.sortedKeys = m'.sortedKeys := by
  refine sorted_congr hm hm' ?_
  intro k
  rw [mem_keys, mem_keys]
  exact h k

/-- A map over which another one is written, key by key. -/
theorem get?_foldl_set (es m : StrMap V) (k : String) :
    (es.foldl (fun m e => m.set e.1 e.2) m).get? k = (List.lookup k es.reverse).or (m.get? k) := by
  induction es generalizing m with
  | nil => rfl
  | cons e es ih =>
    obtain ⟨k', v⟩ := e
    rw [List.foldl_cons, ih, List.reverse_cons, List.lookup_append, Option.or_assoc]
    congr 1
    by_cases h : k = k'
    · subst h
      simp
    · rw [get?_set_ne _ _ (Ne.symm h), List.lookup_cons, beq_false_of_ne h]
      rfl

/-! ## Writing one map over another -/

theorem get?_of_mem (h : m.Distinct) {e : String × V} (he : e ∈ m) : m.get? e.1 = some e.2 := by
  induction m with
  | nil => cases he
  | cons e' m ih =>
    obtain ⟨hhead, htail⟩ := List.nodup_cons.mp h
    rw [get?_cons]
    rcases List.mem_cons.mp he with rfl | he
    · exact if_pos rfl
    · have hne : e'.1 ≠ e.1 := fun heq => hhead (heq ▸ List.mem_map_of_mem he)
      rw [if_neg hne]
      exact ih htail he

theorem get?_eq_some (h : m.Distinct) {e : String × V} : m.get? e.1 = some e.2 ↔ e ∈ m := by
  refine ⟨fun hget => ?_, get?_of_mem h⟩
  obtain ⟨e', he, hkey⟩ := List.mem_map.mp (mem_keys.mpr (Option.isSome_of_eq_some hget))
  have hval := get?_of_mem h he
  rw [hkey, hget] at hval
  rw [← Prod.ext hkey (Option.some.inj hval).symm]
  exact he

theorem get?_overlay {es : StrMap V} (h : es.Distinct) (m : StrMap V) (k : String) :
    (es.foldl (fun m e => m.set e.1 e.2) m).get? k = (es.get? k).or (m.get? k) := by
  induction es generalizing m with
  | nil => rfl
  | cons e es ih =>
    obtain ⟨k', v⟩ := e
    obtain ⟨hhead, htail⟩ := List.nodup_cons.mp h
    rw [List.foldl_cons, ih htail, get?_cons]
    by_cases hk : k' = k
    · subst hk
      have hnone : get? es k' = none := by
        by_contra hne
        exact hhead (mem_keys.mpr (Option.isSome_iff_ne_none.mpr hne))
      simp [hnone]
    · rw [get?_set_ne _ _ hk, if_neg hk]

theorem Distinct.overlay (h : m.Distinct) (es : StrMap V) :
    (es.foldl (fun m e => m.set e.1 e.2) m).Distinct := by
  induction es generalizing m with
  | nil => exact h
  | cons e es ih => exact ih (h.set e.1 e.2)

theorem equal_iff [DecidableEq V] {m m' : StrMap V} (h : m.Distinct) (h' : m'.Distinct) :
    m.equal m' = true ↔ ∀ k, m.get? k = m'.get? k := by
  unfold equal
  rw [Bool.and_eq_true, decide_eq_true_iff, List.all_eq_true]
  constructor
  · rintro ⟨hlen, hall⟩ k
    have hsub : ∀ k, k ∈ m.keys → k ∈ m'.keys ∧ m.get? k = m'.get? k := by
      intro k hk
      obtain ⟨e, he, rfl⟩ := List.mem_map.mp hk
      have hget : m'.get? e.1 = some e.2 := of_decide_eq_true (hall e he)
      exact ⟨mem_keys.mpr (by simp [hget]), (get?_of_mem h he).trans hget.symm⟩
    by_cases hk : k ∈ m.keys
    · exact (hsub k hk).2
    · -- `m'` has no room for another key
      have hperm := (List.subperm_of_subset h (fun k hk => (hsub k hk).1)).perm_of_length_le
        (by simp [keys, hlen])
      have hk' : k ∉ m'.keys := fun hk' => hk (hperm.mem_iff.mpr hk')
      rw [mem_keys, Option.not_isSome_iff_eq_none] at hk hk'
      rw [hk, hk']
  · intro hget
    have hperm : m.keys.Perm m'.keys := by
      rw [List.perm_ext_iff_of_nodup h h']
      intro k
      rw [mem_keys, mem_keys, hget]
    refine ⟨by simpa [keys] using hperm.length_eq, fun e he => ?_⟩
    rw [← hget, get?_of_mem h he]
    exact decide_eq_true rfl

end StrMap

end Kube
