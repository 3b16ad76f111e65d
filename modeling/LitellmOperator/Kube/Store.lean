import LitellmOperator.Kube.Object

/-! # One object in the API server

`Store` is the history of one custom resource: every version the API server has stored, newest
first, and whether the object still exists. Reads through an informer cache may return any past
version, so the past is part of the state. Writes follow the API server's rules: `update` and
`statusUpdate` are refused unless the written copy carries the current resource version,
`update` leaves the status alone and `statusUpdate` everything else, a write that changes
nothing keeps the resource version, and an object that is being deleted goes away with its last
finalizer. The resource version of a version determines it, and that is a field of the store.
-/

set_option autoImplicit false

namespace Kube

section

variable {Spec Status : Type}

variable (r : Resource Spec Status)

def Resource.rv : Nat := r.metadata.resourceVersion

variable (rv gen : Nat)

/-- `r` under a given resource version and generation: what the server adds to a write. -/
def Resource.stamp : Resource Spec Status :=
  { r with metadata := { r.metadata with resourceVersion := rv, generation := gen } }

@[simp] theorem Resource.stamp_rv : (r.stamp rv gen).rv = rv := rfl

/-- What an update through the main resource can change of the object `cur`: labels,
annotations, finalizers, owner references and the spec. -/
def Resource.updated (cur obj : Resource Spec Status) : Resource Spec Status where
  metadata := { cur.metadata with
    finalizers := obj.metadata.finalizers
    labels := obj.metadata.labels
    annotations := obj.metadata.annotations
    ownerReferences := obj.metadata.ownerReferences }
  spec := obj.spec
  status := cur.status

/-- What an update through the status subresource can change of the object `cur`. -/
def Resource.withStatus (cur : Resource Spec Status) (st : Status) : Resource Spec Status :=
  { cur with status := st }

structure Store (Spec Status : Type) where
  versions : List (Resource Spec Status)
  nextVersion : Nat
  live : Bool
  below : ∀ v ∈ versions, v.rv < nextVersion
  unique : ∀ a ∈ versions, ∀ b ∈ versions, a.rv = b.rv → a = b

namespace Store

variable (s : Store Spec Status)

/-- The object as it is now. -/
def current : Option (Resource Spec Status) :=
  if s.live then s.versions.head? else none

def empty : Store Spec Status where
  versions := []
  nextVersion := 0
  live := false
  below _ hv := by cases hv
  unique _ ha := by cases ha

def created (r : Resource Spec Status) : Store Spec Status where
  versions := [r]
  nextVersion := r.rv + 1
  live := true
  below := by
    intro v hv
    rw [List.mem_singleton.mp hv]
    exact Nat.lt_succ_self _
  unique := by
    intro a ha b hb _
    rw [List.mem_singleton.mp ha, List.mem_singleton.mp hb]

/-- Add a version; it gets the next resource version. -/
def push (v : Resource Spec Status) (gen : Nat) : Store Spec Status where
  versions := v.stamp s.nextVersion gen :: s.versions
  nextVersion := s.nextVersion + 1
  live := !(v.metadata.deleting && v.metadata.finalizers.isEmpty)
  below := by
    intro x hx
    rcases List.mem_cons.mp hx with rfl | hx
    · simp
    · exact Nat.lt_succ_of_lt (s.below x hx)
  unique := by
    intro a ha b hb hab
    rcases List.mem_cons.mp ha with rfl | ha <;> rcases List.mem_cons.mp hb with rfl | hb
    · rfl
    · exact absurd (s.below b hb) (by rw [← hab]; simp)
    · exact absurd (s.below a ha) (by rw [hab]; simp)
    · exact s.unique a ha b hb hab

def alreadyExists : StatusError := ⟨.alreadyExists, "already exists"⟩

/-- `client.Create`. -/
def create (obj : Resource Spec Status) :
    Except StatusError (Resource Spec Status × Store Spec Status) :=
  match s.current with
  | some _ => .error alreadyExists
  | none => .ok (obj.stamp s.nextVersion 1, s.push obj 1)

variable {cur obj r : Resource Spec Status}

theorem mem_of_current {s : Store Spec Status} (h : s.current = some cur) : cur ∈ s.versions := by
  unfold current at h
  split at h
  · exact List.mem_of_mem_head? h
  · cases h

theorem head_of_current {s : Store Spec Status} (h : s.current = some cur) :
    s.versions.head? = some cur := by
  unfold current at h
  split at h
  · exact h
  · cases h

/-- A copy that carries the current resource version is a copy of the current object. -/
theorem eq_current {s : Store Spec Status} {cur v : Resource Spec Status}
    (h : s.current = some cur) (hv : v ∈ s.versions) (hrv : v.rv = cur.rv) : v = cur :=
  s.unique v hv cur (mem_of_current h) hrv

theorem stamp_self (r : Resource Spec Status) : r.stamp r.rv r.metadata.generation = r := rfl

theorem create_ok {s s' : Store Spec Status} (h : s.create obj = .ok (r, s')) :
    s.current = none ∧ r = obj.stamp s.nextVersion 1 ∧ s' = s.push obj 1 := by
  unfold create at h
  split at h
  · cases h
  · rename_i hnone
    cases h
    exact ⟨hnone, rfl, rfl⟩

variable [DecidableEq Spec] [DecidableEq Status]

/-- Store `v` over the current object `cur`. -/
def put (cur v : Resource Spec Status) : Resource Spec Status × Store Spec Status :=
  if v = cur then (cur, s)
  else
    let gen := if v.spec = cur.spec then cur.metadata.generation
      else cur.metadata.generation + 1
    (v.stamp s.nextVersion gen, s.push v gen)

def notFound : StatusError := ⟨.notFound, "not found"⟩

def conflict : StatusError := ⟨.conflict, "the object has been modified"⟩

/-- `client.Update`. -/
def update (obj : Resource Spec Status) :
    Except StatusError (Resource Spec Status × Store Spec Status) :=
  match s.current with
  | none => .error notFound
  | some cur => if obj.rv = cur.rv then .ok (s.put cur (cur.updated obj)) else .error conflict

/-- `client.Status().Update`. -/
def statusUpdate (obj : Resource Spec Status) :
    Except StatusError (Resource Spec Status × Store Spec Status) :=
  match s.current with
  | none => .error notFound
  | some cur =>
    if obj.rv = cur.rv then .ok (s.put cur (cur.withStatus obj.status)) else .error conflict

/-- `client.Status().Patch` with a merge patch that turns a status into `f` of it; it carries no
resource version. -/
def statusPatch (f : Status → Status) :
    Except StatusError (Resource Spec Status × Store Spec Status) :=
  match s.current with
  | none => .error notFound
  | some cur => .ok (s.put cur (cur.withStatus (f cur.status)))

/-- A user's edit of the spec. -/
def edit (spec : Spec) : Option (Store Spec Status) :=
  s.current.map (fun cur => (s.put cur { cur with spec := spec }).2)

/-- A user's deletion of the object: it is only marked while it has finalizers. -/
def markDeleted : Option (Store Spec Status) := s.current.map (fun cur =>
    (s.put cur { cur with metadata := { cur.metadata with deleting := true } }).2)

/-- A write of another controller that turns the object into `f` of it. -/
def alter (f : Resource Spec Status → Resource Spec Status) : Option (Store Spec Status) :=
  s.current.map (fun cur => (s.put cur (f cur)).2)

/-! ## What a write does -/

/-- `r` and `s'` are the answer to, and the store after, a write of `v` over the current
object `cur` of `s`. -/
structure Written (s : Store Spec Status) (cur v r : Resource Spec Status)
    (s' : Store Spec Status) : Prop where
  was : s.current = some cur
  stored : ∃ rv gen, r = v.stamp rv gen
  /-- The new object is the answer, unless it went away with its last finalizer. -/
  now : s'.current = some r ∨ s'.current = none
  gone : s'.current = none → v.metadata.deleting = true ∧ v.metadata.finalizers = []
  mem : r ∈ s'.versions
  head : s'.versions.head? = some r
  grows : ∀ x ∈ s.versions, x ∈ s'.versions
  only : ∀ x ∈ s'.versions, x = r ∨ x ∈ s.versions
  /-- Past versions other than the current one keep a different resource version. -/
  fresh : ∀ x ∈ s.versions, x.rv = r.rv → x = cur ∧ r = cur

variable {s} {s' : Store Spec Status}

theorem written_put (h : s.current = some cur) (v : Resource Spec Status) :
    Written s cur v (s.put cur v).1 (s.put cur v).2 := by
  unfold put
  by_cases hv : v = cur
  · subst hv
    rw [if_pos rfl]
    exact
      { was := h
        stored := ⟨v.rv, v.metadata.generation, stamp_self v⟩
        now := .inl h
        gone := fun h' => by rw [h] at h'; cases h'
        mem := mem_of_current h
        head := head_of_current h
        grows := fun x hx => hx
        only := fun x hx => .inr hx
        fresh := fun x hx hrv => ⟨eq_current h hx hrv, rfl⟩ }
  · rw [if_neg hv]
    exact
      { was := h
        stored := ⟨_, _, rfl⟩
        now := by
          unfold current push
          by_cases hl : (v.metadata.deleting && v.metadata.finalizers.isEmpty) = true
          · exact .inr (by simp [hl])
          · exact .inl (by simp [hl])
        gone := by
          unfold current push
          intro hg
          by_cases hl : (v.metadata.deleting && v.metadata.finalizers.isEmpty) = true
          · simpa using hl
          · simp [hl] at hg
        mem := List.mem_cons_self
        head := rfl
        grows := fun x hx => List.mem_cons_of_mem _ hx
        only := fun x hx => List.mem_cons.mp hx
        fresh := fun x hx hrv => by
          have := s.below x hx
          rw [hrv, Resource.stamp_rv] at this
          exact absurd this (Nat.lt_irrefl _) }

theorem current_put {cur v : Resource Spec Status}
    (h : s.current = some cur) (hlive : v.metadata.deleting = false) :
    (s.put cur v).2.current = some (s.put cur v).1 := by
  have hw := written_put h v
  rcases hw.now with hnow | hgone
  · exact hnow
  · have hdel := (hw.gone hgone).1
    rw [hlive] at hdel
    cases hdel

theorem update_of_current {cur obj : Resource Spec Status}
    (h : s.current = some cur) (hrv : obj.rv = cur.rv) :
    s.update obj = .ok (s.put cur (cur.updated obj)) := by
  unfold update
  rw [h]
  exact if_pos hrv

theorem statusUpdate_of_current {cur obj : Resource Spec Status}
    (h : s.current = some cur) (hrv : obj.rv = cur.rv) :
    s.statusUpdate obj = .ok (s.put cur (cur.withStatus obj.status)) := by
  unfold statusUpdate
  rw [h]
  exact if_pos hrv

theorem statusPatch_of_current (h : s.current = some cur)
    (f : Status → Status) : s.statusPatch f = .ok (s.put cur (cur.withStatus (f cur.status))) := by
  unfold statusPatch
  rw [h]

theorem update_ok (h : s.update obj = .ok (r, s')) :
    ∃ cur, obj.rv = cur.rv ∧ Written s cur (cur.updated obj) r s' := by
  unfold update at h
  split at h
  · cases h
  · rename_i cur hcur
    split at h
    · rename_i hrv
      have hw := written_put hcur (cur.updated obj)
      rw [Except.ok.inj h] at hw
      exact ⟨cur, hrv, hw⟩
    · cases h

theorem statusUpdate_ok (h : s.statusUpdate obj = .ok (r, s')) :
    ∃ cur, obj.rv = cur.rv ∧ Written s cur (cur.withStatus obj.status) r s' := by
  unfold statusUpdate at h
  split at h
  · cases h
  · rename_i cur hcur
    split at h
    · rename_i hrv
      have hw := written_put hcur (cur.withStatus obj.status)
      rw [Except.ok.inj h] at hw
      exact ⟨cur, hrv, hw⟩
    · cases h

/-- An update that carries the resource version of a stored version is made over that version. -/
theorem written_of_update (h : s.update obj = .ok (r, s'))
    (hc : cur ∈ s.versions) (hrv : obj.rv = cur.rv) : Written s cur (cur.updated obj) r s' := by
  obtain ⟨cur', hcur, hw⟩ := update_ok h
  rwa [eq_current hw.was hc (hrv.symm.trans hcur)]

theorem written_of_statusUpdate (h : s.statusUpdate obj = .ok (r, s'))
    (hc : cur ∈ s.versions) (hrv : obj.rv = cur.rv) :
    Written s cur (cur.withStatus obj.status) r s' := by
  obtain ⟨cur', hcur, hw⟩ := statusUpdate_ok h
  rwa [eq_current hw.was hc (hrv.symm.trans hcur)]

theorem statusPatch_ok {f : Status → Status}
    {r : Resource Spec Status} (h : s.statusPatch f = .ok (r, s')) :
    ∃ cur, Written s cur (cur.withStatus (f cur.status)) r s' := by
  unfold statusPatch at h
  split at h
  · cases h
  · rename_i cur hcur
    have hw := written_put hcur (cur.withStatus (f cur.status))
    rw [Except.ok.inj h] at hw
    exact ⟨cur, hw⟩

theorem alter_some {f : Resource Spec Status → Resource Spec Status}
    (h : s.alter f = some s') : ∃ cur r, Written s cur (f cur) r s' := by
  obtain ⟨cur, hcur, rfl⟩ := Option.map_eq_some_iff.mp h
  exact ⟨cur, _, written_put hcur _⟩

theorem edit_some {spec : Spec} (h : s.edit spec = some s') :
    ∃ cur r, Written s cur { cur with spec := spec } r s' := by
  obtain ⟨cur, hcur, rfl⟩ := Option.map_eq_some_iff.mp h
  exact ⟨cur, _, written_put hcur _⟩

theorem markDeleted_some (h : s.markDeleted = some s') :
    ∃ cur r, Written s cur
      { cur with metadata := { cur.metadata with deleting := true } } r s' := by
  obtain ⟨cur, hcur, rfl⟩ := Option.map_eq_some_iff.mp h
  exact ⟨cur, _, written_put hcur _⟩

end Store

end

/-! ## Secrets in the API server

`Secrets` are the Secrets the API server holds. A create is refused when the name is taken, an
update when the Secret is gone or the written copy does not carry its resource version. The server
merges the write-only `stringData` into `data`, so no stored Secret has any. Every write gives the
Secret a resource version no Secret has had before.
-/

variable (x : Secret)

def Secret.rv : Nat := x.metadata.resourceVersion

def Secret.key : NamespacedName := x.metadata.key

/-- The Secret as the server stores it under a given resource version. -/
def Secret.stored (rv : Nat) : Secret where
  metadata := { x.metadata with resourceVersion := rv }
  data := x.stringData.foldl (fun m e => m.set e.1 e.2) x.data

@[simp] theorem Secret.stored_key (rv : Nat) : (x.stored rv).key = x.key := rfl

@[simp] theorem Secret.stored_rv (rv : Nat) : (x.stored rv).rv = rv := rfl

structure Secrets where
  objs : List Secret
  nextVersion : Nat
  below : ∀ x ∈ objs, x.rv < nextVersion
  plain : ∀ x ∈ objs, x.stringData = []

namespace Secrets

variable (s : Secrets)

/-- The Secret of that name, if it exists. -/
def find (key : NamespacedName) : Option Secret := s.objs.find? (fun x => x.key = key)

def delete (key : NamespacedName) : Secrets where
  objs := s.objs.filter (fun x => x.key ≠ key)
  nextVersion := s.nextVersion
  below x hx := s.below x (List.mem_of_mem_filter hx)
  plain x hx := s.plain x (List.mem_of_mem_filter hx)

/-- Store `x` in place of the Secret of its name. -/
def put (x : Secret) : Secrets where
  objs := x.stored s.nextVersion :: (s.delete x.key).objs
  nextVersion := s.nextVersion + 1
  below := by
    intro y hy
    rcases List.mem_cons.mp hy with rfl | hy
    · simp
    · exact Nat.lt_succ_of_lt ((s.delete x.key).below y hy)
  plain := by
    intro y hy
    rcases List.mem_cons.mp hy with rfl | hy
    · rfl
    · exact (s.delete x.key).plain y hy

def notFound : StatusError := ⟨.notFound, "secret not found"⟩

def alreadyExists : StatusError := ⟨.alreadyExists, "secret already exists"⟩

def conflict : StatusError := ⟨.conflict, "the secret has been modified"⟩

/-- `client.Create`. -/
def create (x : Secret) : Except StatusError Secrets :=
  match s.find x.key with
  | some _ => .error alreadyExists
  | none => .ok (s.put x)

/-- `client.Update`. -/
def update (x : Secret) : Except StatusError Secrets :=
  match s.find x.key with
  | none => .error notFound
  | some cur => if x.rv = cur.rv then .ok (s.put x) else .error conflict

/-! ## What is found after a write -/

variable {x : Secret} {key : NamespacedName}

theorem mem_of_find {s : Secrets} (h : s.find key = some x) :
    x ∈ s.objs := List.mem_of_find?_eq_some h

theorem key_of_find {s : Secrets} (h : s.find key = some x) : x.key = key := by
  have hx := List.find?_some h
  simpa using hx

@[simp] theorem find_delete_self (key : NamespacedName) : (s.delete key).find key = none := by
  unfold find delete
  rw [List.find?_eq_none]
  intro x hx
  simpa using (List.mem_filter.mp hx).2

theorem find_delete_ne {key key' : NamespacedName} (h : key' ≠ key) :
    (s.delete key).find key' = s.find key' := by
  unfold find delete
  rw [List.find?_filter]
  congr 1
  funext x
  by_cases hx : x.key = key'
  · simp [hx, h]
  · simp [hx]

@[simp] theorem find_put_self (x : Secret) :
    (s.put x).find x.key = some (x.stored s.nextVersion) := by
  unfold find put
  exact List.find?_cons_of_pos (by simp)

theorem find_put_ne (x : Secret) (h : key ≠ x.key) : (s.put x).find key = s.find key := by
  rw [← find_delete_ne s h]
  unfold find put
  exact List.find?_cons_of_neg (by simp [h.symm])

theorem find_of_delete {s : Secrets} {key key' : NamespacedName}
    (h : (s.delete key).find key' = some x) : s.find key' = some x := by
  by_cases hk : key' = key
  · subst hk
    rw [find_delete_self] at h
    cases h
  · rwa [find_delete_ne s hk] at h

theorem create_ok {s s' : Secrets} (h : s.create x = .ok s') : s' = s.put x := by
  unfold create at h
  split at h
  · cases h
  · cases h
    rfl

theorem update_ok {s s' : Secrets} (h : s.update x = .ok s') :
    ∃ cur, s.find x.key = some cur ∧ x.rv = cur.rv ∧ s' = s.put x := by
  unfold update at h
  split at h
  · cases h
  · rename_i cur hcur
    split at h
    · rename_i hrv
      cases h
      exact ⟨cur, hcur, hrv, rfl⟩
    · cases h

end Secrets

/-! ## Secrets behind a cache

A client that reads through an informer cache may get any version of a Secret that was ever stored,
or none at all. `CachedSecrets` are the Secrets the API server holds together with all versions it
has held. Resource versions are never used twice, so a copy that is written back goes through only
if it is a copy of the Secret as it is (`data_of_update`).
-/

structure CachedSecrets where
  now : Secrets
  /-- Every version that was ever stored. -/
  past : List Secret
  held : ∀ x ∈ now.objs, x ∈ past
  below : ∀ x ∈ past, x.rv < now.nextVersion
  plain : ∀ x ∈ past, x.stringData = []
  unique : ∀ x ∈ past, ∀ y ∈ past, x.rv = y.rv → x = y

namespace CachedSecrets

variable (s : CachedSecrets)

def delete (key : NamespacedName) : CachedSecrets where
  now := s.now.delete key
  past := s.past
  held x hx := s.held x (List.mem_of_mem_filter hx)
  below := s.below
  plain := s.plain
  unique := s.unique

def put (x : Secret) : CachedSecrets where
  now := s.now.put x
  past := x.stored s.now.nextVersion :: s.past
  held := by
    intro y hy
    rcases List.mem_cons.mp hy with rfl | hy
    · exact List.mem_cons_self
    · exact List.mem_cons_of_mem _ (s.held y (List.mem_of_mem_filter hy))
  below := by
    intro y hy
    rcases List.mem_cons.mp hy with rfl | hy
    · exact Nat.lt_succ_self _
    · exact Nat.lt_succ_of_lt (s.below y hy)
  plain := by
    intro y hy
    rcases List.mem_cons.mp hy with rfl | hy
    · rfl
    · exact s.plain y hy
  unique := by
    intro a ha b hb hab
    rcases List.mem_cons.mp ha with rfl | ha <;> rcases List.mem_cons.mp hb with rfl | hb
    · rfl
    · have hlt := s.below b hb
      rw [← hab, Secret.stored_rv] at hlt
      exact absurd hlt (Nat.lt_irrefl _)
    · have hlt := s.below a ha
      rw [hab, Secret.stored_rv] at hlt
      exact absurd hlt (Nat.lt_irrefl _)
    · exact s.unique a ha b hb hab

def create (x : Secret) : Except StatusError CachedSecrets :=
  match s.now.find x.key with
  | some _ => .error Secrets.alreadyExists
  | none => .ok (s.put x)

def update (x : Secret) : Except StatusError CachedSecrets :=
  match s.now.find x.key with
  | none => .error Secrets.notFound
  | some cur => if x.rv = cur.rv then .ok (s.put x) else .error Secrets.conflict

theorem create_ok {s s' : CachedSecrets} {x : Secret} (h : s.create x = .ok s') : s' = s.put x := by
  unfold create at h
  split at h
  · cases h
  · cases h
    rfl

theorem update_ok {s s' : CachedSecrets} {x : Secret} (h : s.update x = .ok s') :
    ∃ cur, s.now.find x.key = some cur ∧ x.rv = cur.rv ∧ s' = s.put x := by
  unfold update at h
  split at h
  · cases h
  · rename_i cur hcur
    split at h
    · rename_i hrv
      cases h
      exact ⟨cur, hcur, hrv, rfl⟩
    · cases h

/-- A copy of any version, written back with its data, changes no data. -/
theorem data_of_update {s s' : CachedSecrets} {x y : Secret} (h : s.update x = .ok s')
    (hy : y ∈ s.past) (hrv : x.rv = y.rv) (hdata : x.data = y.data) (hplain : x.stringData = [])
    (key : NamespacedName) :
    (s'.now.find key).map Secret.data = (s.now.find key).map Secret.data := by
  obtain ⟨cur, hcur, hcurrv, rfl⟩ := update_ok h
  -- the server only takes a copy of the version it holds
  have heq : cur = y := s.unique cur (s.held cur (Secrets.mem_of_find hcur)) y hy
    (hcurrv.symm.trans hrv)
  show ((s.now.put x).find key).map Secret.data = _
  by_cases hkey : key = x.key
  · have hstored : (x.stored s.now.nextVersion).data = x.data := by
      unfold Secret.stored
      rw [hplain]
      rfl
    rw [hkey, Secrets.find_put_self, hcur, heq, Option.map_some, Option.map_some, hstored, hdata]
  · rw [Secrets.find_put_ne _ _ hkey]

end CachedSecrets

end Kube
