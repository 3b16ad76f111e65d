import LitellmOperator.Lifecycle.Grounds
import LitellmOperator.Lifecycle.Reconcilers

/-! # What a resource has created is recorded

For the kinds whose id LiteLLM assigns, or that bind to an id they have asked for, an object
created and not recorded is lost: the next reconcile creates another one, or takes its own for
someone else's. A reconcile records what it has created unless a call fails on which the record
depends. So an object can only be lost at such a failure, at a crash, or when the answer to the
create is lost. Runs in which none of these happens while an object is unrecorded are
`recording`; along them every object the resource has created is the one in its stored status, or
the one the running reconcile is about to record.
-/

set_option autoImplicit false

namespace LitellmOperator

open Effect Go Kube

section

variable {Spec Status Api : Type} [Service Api]

/-- A kind that is bound by its status alone, and only to what it has created or adopted. -/
structure Kind.ByStatus (K : Kind Spec Status Api) : Prop where
  takes : ∀ req a x, K.takes req a = some x → K.creates req = true
  bound : ∀ (cur : Resource Spec Status) (spec : Spec),
    K.bound { cur with spec := spec } = K.bound cur
  byName : K.byName = false
  deletes : ∀ req, K.creates req = true → K.deletes req = none

variable (K : Kind Spec Status Api) (w : World Spec Status)

/-- What the last stored version is bound to. -/
def Kind.headBound : Option String := w.store.versions.head?.bind K.bound

/-- Every object of this resource is the one in its stored status. -/
def AllRecorded : Prop := ∀ o ∈ w.own, K.headBound w = some o.2

instance (w : World Spec Status) : Decidable (AllRecorded K w) :=
  inferInstanceAs (Decidable (∀ o ∈ w.own, _))

/-! ## The side condition -/

def Op.creates : Op Spec Status Api → Bool
  | .api _ req => K.creates req
  | _ => false

/-- The call is answered without hindering what was created from being recorded. -/
def Unhindered [DecidableEq Spec] [DecidableEq Status] (lib : Ext) (home : String)
    (w : World Spec Status) (op : Op Spec Status Api) (rep : Reply Api) : Prop :=
  ∀ out ∈ World.answer K lib home w op rep, ∀ v ∈ w.store.versions, K.hinders v op out.1 = false

instance [DecidableEq Spec] [DecidableEq Status] (lib : Ext) (home : String)
    (w : World Spec Status) (op : Op Spec Status Api) (rep : Reply Api) :
    Decidable (Unhindered K lib home w op rep) :=
  inferInstanceAs (Decidable (∀ out ∈ World.answer K lib home w op rep, _))

/-- LiteLLM does not lose the answer to a create, does not create an object that exists (nor, for
a kind that replaces its object, one it has had before), and carries out deletes of such kinds. -/
def Reliable : Op Spec Status Api → Reply Api → Prop
  | .api conn req, .served result lost => K.creates req = true → lost = none ∧
      ∀ a ∈ result req, ∀ x ∈ K.takes req a, (conn.inst.metadata.key, x) ∉ w.objects ∧
        (K.replaces = true → ∀ v ∈ w.store.versions, K.bound v ≠ some x)
  | .api _ req, .fail _ => K.replaces = true → K.deletes req = none
  | _, _ => True

instance (w : World Spec Status) (op : Op Spec Status Api) (rep : Reply Api) :
    Decidable (Reliable K w op rep) := by
  unfold Reliable
  rcases op with _ | _ <;> rcases rep with _ | _ <;> infer_instance

/-- While an object is unrecorded nothing hinders its record. The reference to the instance is never
edited, and the config sync clears an id only while its object is missing. -/
def recording [DecidableEq Spec] [DecidableEq Status] (lib : Ext) (home : String) :
    Side Spec Status Api where
  env w e :=
    match e with
    | .edit spec => ∀ cur ∈ w.store.current, K.refKey { cur with spec := spec } = K.refKey cur
    | .clear age => ∀ v ∈ w.store.versions[age]?, ∀ x ∈ K.bound v, (K.refKey v, x) ∉ w.objects
    | _ => True
  reply w op rep := Reliable K w op rep ∧
    (op.creates K = true ∨ ¬ AllRecorded K w → Unhindered K lib home w op rep)
  crash w := AllRecorded K w

instance [DecidableEq Spec] [DecidableEq Status] (lib : Ext) (home : String) :
    (recording K lib home).Decides where
  env w e := by
    unfold recording
    rcases e with _ | _ <;> infer_instance
  reply w op rep := by
    unfold recording
    infer_instance
  crash w := inferInstanceAs (Decidable (AllRecorded K w))

/-! ## The invariant -/

/-- Every object of the resource is on the instance `k₀`, and is the one in the stored status or
the one the session is about to record. -/
structure Owned (k₀ : NamespacedName) (w : World Spec Status)
    (s? : Option (Session Spec Status)) : Prop where
  key : ∀ v ∈ w.store.versions, K.refKey v = k₀
  exist : ∀ o ∈ w.own, o ∈ w.objects
  nodup : w.own.Nodup
  recorded : ∀ o ∈ w.own, o.1 = k₀ ∧
    (K.headBound w = some o.2 ∨ ∃ s, s? = some s ∧ s.fresh = some o.2)
  /-- Until it is recorded, nothing has hindered it. -/
  calm : ∀ s x, s? = some s → s.fresh = some x → (k₀, x) ∈ w.own → K.headBound w ≠ some x →
    s.hindered = false
  /-- Recording it does not overwrite the id of another object. -/
  vacant : ∀ s x, s? = some s → s.fresh = some x → ∀ c, s.copy = some c →
    ∀ y, K.bound c = some y → (k₀, y) ∉ w.own
  dropped : ∀ s y, s? = some s → y ∈ s.dropped → (k₀, y) ∉ w.own ∧ K.replaces = true ∧
    ∃ v ∈ w.store.versions, K.bound v = some y

variable {K} {lib : Ext} {home : String} {k₀ : NamespacedName} {w w' : World Spec Status}
variable {s s' : Session Spec Status} {s? : Option (Session Spec Status)}

variable {cur v r : Resource Spec Status}

theorem headBound_of_written (h : Store.Written w.store cur v r w'.store) :
    K.headBound w = K.bound cur ∧ K.headBound w' = K.bound v := by
  obtain ⟨rv, gen, hr⟩ := h.stored
  unfold Kind.headBound
  rw [Store.head_of_current h.was, h.head]
  refine ⟨rfl, ?_⟩
  show K.bound r = K.bound v
  rw [hr, Kind.bound_stamp]

theorem key_of_written (h : Store.Written w.store cur v r w'.store)
    (hkey : ∀ u ∈ w.store.versions, K.refKey u = k₀) (hv : K.refKey v = K.refKey cur) :
    ∀ u ∈ w'.store.versions, K.refKey u = k₀ := by
  intro u hu
  obtain ⟨rv, gen, hr⟩ := h.stored
  rcases h.only u hu with rfl | hu
  · rw [hr, refKey_stamp, hv]
    exact hkey cur (Store.mem_of_current h.was)
  · exact hkey u hu

/-! ## Steps that are not about a pending object -/

theorem Owned.shrink (h : Owned K k₀ w s?) (hstore : w'.store = w.store)
    (hsub : w'.own.Sublist w.own) (hexist : ∀ o ∈ w'.own, o ∈ w'.objects) :
    Owned K k₀ w' s? := by
  have hhead : K.headBound w' = K.headBound w := by
    unfold Kind.headBound
    rw [hstore]
  have hmem : ∀ o ∈ w'.own, o ∈ w.own := fun o ho => hsub.subset ho
  refine ⟨?_, hexist, h.nodup.sublist hsub, fun o ho => ?_, fun s x hs hx ho hne => ?_,
    fun s x hs hx c hc y hy hmem' => ?_, fun s y hs hy => ?_⟩
  · rw [hstore]
    exact h.key
  · rw [hhead]
    exact h.recorded o (hmem o ho)
  · rw [hhead] at hne
    exact h.calm s x hs hx (hmem _ ho) hne
  · exact h.vacant s x hs hx c hc y hy (hmem _ hmem')
  · rw [hstore]
    obtain ⟨hn, hrest⟩ := h.dropped s y hs hy
    exact ⟨fun ho => hn (hmem _ ho), hrest⟩

theorem Owned.rebind (h : Owned K k₀ w s?) (hw : Store.Written w.store cur v r w'.store)
    (hrest : w' = { w with store := w'.store }) (hkey : K.refKey v = K.refKey cur)
    (hb : ∀ x, (k₀, x) ∈ w.own → K.bound cur = some x → K.bound v = some x) : Owned K k₀ w' s? := by
  obtain ⟨hcur, hv⟩ := headBound_of_written (K := K) hw
  have hf := Frame.of_rest hrest
  have hown : ∀ x, (k₀, x) ∈ w.own → K.headBound w = some x → K.headBound w' = some x := by
    intro x hx hh
    rw [hv]
    exact hb x hx (hcur.symm.trans hh)
  refine ⟨key_of_written hw h.key hkey, ?_, ?_, fun o ho => ?_, fun s x hs hx ho hne => ?_,
    fun s x hs hx c hc y hy => ?_, fun s y hs hy => ?_⟩
  · rw [hf.own, hf.objects]
    exact h.exist
  · rw [hf.own]
    exact h.nodup
  · rw [hf.own] at ho
    obtain ⟨hk, hrec⟩ := h.recorded o ho
    have ho' : (k₀, o.2) ∈ w.own := by
      rw [← hk]
      exact ho
    exact ⟨hk, hrec.imp (hown o.2 ho') id⟩
  · rw [hf.own] at ho
    exact h.calm s x hs hx ho (fun hh => hne (hown x ho hh))
  · rw [hf.own]
    exact h.vacant s x hs hx c hc y hy
  · rw [hf.own]
    obtain ⟨hn, hrep, u, hu, hub⟩ := h.dropped s y hs hy
    exact ⟨hn, hrep, u, hw.grows u hu, hub⟩

theorem Owned.session (h : Owned K k₀ w (some s)) (hf : s'.fresh = s.fresh)
    (hc : s.fresh = none ∨ s'.copy = s.copy) (hd : s'.dropped = s.dropped)
    (hh : ¬ AllRecorded K w → s'.hindered = true → s.hindered = true) :
    Owned K k₀ w (some s') := by
  refine ⟨h.key, h.exist, h.nodup, fun o ho => ?_, fun t x ht hx ho hne => ?_,
    fun t x ht hx c hcopy => ?_, fun t y ht hy => ?_⟩
  · obtain ⟨hk, hrec⟩ := h.recorded o ho
    refine ⟨hk, hrec.imp id ?_⟩
    rintro ⟨t, ht, hx⟩
    cases ht
    exact ⟨s', rfl, hf.trans hx⟩
  · cases ht
    have hcalm := h.calm s x rfl (hf.symm.trans hx) ho hne
    cases hh' : s'.hindered with
    | false => rfl
    | true =>
      rw [hh (fun hall => hne (hall _ ho)) hh'] at hcalm
      cases hcalm
  · cases ht
    rcases hc with hnone | hcopy'
    · rw [hf, hnone] at hx
      cases hx
    · exact h.vacant s x rfl (hf.symm.trans hx) c (hcopy'.symm.trans hcopy)
  · cases ht
    rw [hd] at hy
    exact h.dropped s y rfl hy

theorem owned_of_shift [DecidableEq Spec] [DecidableEq Status] {e : Env Spec} (hK : K.ByStatus)
    (h : Owned K k₀ w s?) (he : (recording K lib home).env w e) (hx : Shifts K w e w') :
    Owned K k₀ w' s? := by
  cases hx with
  | edits spec cur r _ hw hrest =>
    refine h.rebind hw hrest (he cur hw.was) (fun x _ hb => ?_)
    rw [hK.bound]
    exact hb
  | keeps _ cur v r _ hst hb _ =>
    refine h.rebind hst.written hst.rest (refKey_of_stores hst) (fun x _ hx => ?_)
    rw [hb]
    exact hx
  | clears age cur v r _ hlisted hst hb _ =>
    refine h.rebind hst.written hst.rest (refKey_of_stores hst) (fun x ho hx => ?_)
    -- the object is missing, so it is not one of the resource's own
    have hmissing := he cur hlisted x hx
    rw [h.key cur (Store.mem_of_current hst.written.was)] at hmissing
    exact absurd (h.exist _ ho) hmissing
  | appears o _ =>
    exact h.shrink rfl (List.Sublist.refl _) (fun p hp => List.mem_cons_of_mem _ (h.exist p hp))
  | vanishes o =>
    refine h.shrink rfl List.filter_sublist (fun p hp => ?_)
    obtain ⟨hp, hne⟩ := List.mem_filter.mp hp
    exact List.mem_filter.mpr ⟨h.exist p hp, hne⟩

/-! ## Writes of the session -/

/-- Before a write that does not record what is pending, every object is the one of the copy. -/
theorem Owned.bound_copy {c : Resource Spec Status} (h : Owned K k₀ w (some s))
    (hcur : K.headBound w = K.bound c) (hfree : s.fresh = none ∨ s.hindered = true) :
    ∀ o ∈ w.own, K.bound c = some o.2 := by
  intro o ho
  obtain ⟨hk, hrec⟩ := h.recorded o ho
  rw [← hcur]
  by_contra hne
  rcases hrec with hrec | ⟨t, ht, hx⟩
  · exact hne hrec
  · cases ht
    have hcalm := h.calm s o.2 rfl hx (by rw [← hk]; exact ho) hne
    rcases hfree with hnone | hh
    · rw [hnone] at hx
      cases hx
    · rw [hh] at hcalm
      cases hcalm

theorem Owned.all_written {c v : Resource Spec Status} (hK : K.ByStatus)
    (h : Owned K k₀ w (some s)) (hc : s.copy = some c) (hcur : K.headBound w = K.bound c)
    (hmay : K.MayWrite s c v) : ∀ o ∈ w.own, K.bound v = some o.2 := by
  intro o ho
  have hk := (h.recorded o ho).1
  have ho' : (k₀, o.2) ∈ w.own := by
    rw [← hk]
    exact ho
  rcases hmay with ⟨x, hx, hv⟩ | ⟨hfree, hv⟩
  · -- the copy has no object of its own, so this one is pending
    rcases (h.recorded o ho).2 with hrec | ⟨t, ht, hx'⟩
    · exact absurd ho' (h.vacant s x rfl hx c hc o.2 (hcur.symm.trans hrec))
    · cases ht
      rw [hx] at hx'
      rw [hv, hx']
  · have hbc := h.bound_copy hcur hfree o ho
    rcases hv with hsame | ⟨-, hname | ⟨y, hy, hbound⟩⟩ | ⟨hnone, -⟩
    · exact hsame.trans hbc
    · rw [hK.byName] at hname
      cases hname
    · rw [hbc] at hbound
      cases hbound
      exact absurd ho' (h.dropped s _ rfl hy).1
    · rw [hnone] at hbc
      cases hbc

/-- If something is still pending after a write that was answered, the resource has no object. -/
theorem Owned.none_of_pending {c v : Resource Spec Status} {x : String}
    (h : Owned K k₀ w (some s)) (hc : s.copy = some c) (hcur : K.headBound w = K.bound c)
    (hmay : K.MayWrite s c v) (hx : s.fresh = some x) (hne : s.fresh ≠ K.bound v) :
    ∀ o, o ∉ w.own := by
  intro o ho
  rcases hmay with ⟨y, hy, hv⟩ | ⟨hfree, -⟩
  · exact hne (hy.trans hv.symm)
  · have hbc := h.bound_copy hcur hfree o ho
    refine h.vacant s x rfl hx c hc o.2 hbc ?_
    rw [← (h.recorded o ho).1]
    exact ho

theorem Owned.write {c v r : Resource Spec Status} {lost : Bool} (hK : K.ByStatus)
    (h : Owned K k₀ w (some s)) (hc : s.copy = some c) (hst : Stores w c v r w')
    (hmay : K.MayWrite s c v) (hd : s'.dropped = s.dropped)
    (hout : lost = false ∧ s'.copy = some r ∧
        s'.fresh = (if s.fresh = K.bound r then none else s.fresh) ∨
      lost = true ∧ s'.copy = s.copy ∧ s'.fresh = s.fresh) : Owned K k₀ w' (some s') := by
  obtain ⟨hcur, hv⟩ := headBound_of_written (K := K) hst.written
  have hr : K.bound r = K.bound v := by
    obtain ⟨rv, gen, hr⟩ := hst.written.stored
    rw [hr, Kind.bound_stamp]
  have hall := h.all_written hK hc hcur hmay
  have hf := Frame.of_rest hst.rest
  have hown : ∀ o ∈ w'.own, o ∈ w.own := fun o ho => by rw [hf.own] at ho; exact ho
  refine ⟨key_of_written hst.written h.key (refKey_of_stores hst), ?_, ?_, fun o ho => ?_,
    fun t x ht hx ho hne => ?_, fun t x ht hx d hd' y hy ho => ?_, fun t y ht hy => ?_⟩
  · rw [hf.own, hf.objects]
    exact h.exist
  · rw [hf.own]
    exact h.nodup
  · exact ⟨(h.recorded o (hown o ho)).1, .inl (hv.trans (hall o (hown o ho)))⟩
  · exact absurd (hv.trans (hall _ (hown _ ho))) hne
  · cases ht
    rcases hout with ⟨-, hcopy, hfresh⟩ | ⟨-, hcopy, hfresh⟩
    · rw [hfresh] at hx
      split at hx
      · cases hx
      · rename_i hne
        rw [hr] at hne
        exact h.none_of_pending hc hcur hmay hx hne _ (hown _ ho)
    · exact h.vacant s x rfl (hfresh.symm.trans hx) d (hcopy.symm.trans hd') y hy (hown _ ho)
  · cases ht
    rw [hd] at hy
    rw [hf.own]
    obtain ⟨hn, hrep, u, hu, hub⟩ := h.dropped s y rfl hy
    exact ⟨hn, hrep, u, hst.written.grows u hu, hub⟩

/-! ## Requests of the session -/

theorem request_own (key : NamespacedName) (req : Api) :
    (World.request K w key req).own = w.own ∧ (World.request K w key req).objects = w.objects := by
  unfold World.request
  split
  · exact ⟨rfl, rfl⟩
  · split <;> exact ⟨rfl, rfl⟩

theorem Owned.request (h : Owned K k₀ w s?) (key : NamespacedName) (req : Api) :
    Owned K k₀ (World.request K w key req) s? := by
  obtain ⟨hown, hobj⟩ := request_own (K := K) (w := w) key req
  refine h.shrink (request_store _ _).1 (by rw [hown]) (fun o ho => ?_)
  rw [hown] at ho
  rw [hobj]
  exact h.exist o ho

theorem Owned.create {x : String} {admitted : Bool} (h : Owned K k₀ w (some s))
    (hnone : s.fresh = none) (hnew : (k₀, x) ∉ w.objects)
    (hvac : ∀ c, s.copy = some c → ∀ y, K.bound c = some y → (k₀, y) ∉ w.own ∧ y ≠ x)
    (hdrop : ∀ y ∈ s.dropped, y ≠ x) (hf : s'.fresh = some x) (hc : s'.copy = s.copy)
    (hd : s'.dropped = s.dropped) (hh : s'.hindered = false) :
    Owned K k₀ (w.having (k₀, x) admitted) (some s') := by
  have hne : ∀ y, (k₀, y) ∉ w.own → y ≠ x → (k₀, y) ∉ (k₀, x) :: w.own := by
    intro y hy hyx hmem
    rcases List.mem_cons.mp hmem with heq | hmem
    · exact hyx (Prod.mk.inj heq).2
    · exact hy hmem
  refine ⟨h.key, fun o ho => ?_, List.nodup_cons.mpr ⟨fun ho => hnew (h.exist _ ho), h.nodup⟩,
    fun o ho => ?_, fun t y ht _ _ _ => ?_, fun t y ht _ c hcopy z hz => ?_, fun t y ht hy => ?_⟩
  · rcases List.mem_cons.mp ho with rfl | ho
    · exact List.mem_cons_self
    · exact List.mem_cons_of_mem _ (h.exist o ho)
  · rcases List.mem_cons.mp ho with rfl | ho
    · exact ⟨rfl, .inr ⟨s', rfl, hf⟩⟩
    · -- nothing was pending, so this one is recorded
      obtain ⟨hk, hrec | ⟨t, ht, hx⟩⟩ := h.recorded o ho
      · exact ⟨hk, .inl hrec⟩
      · cases ht
        rw [hnone] at hx
        cases hx
  · cases ht
    exact hh
  · cases ht
    obtain ⟨hz, hzx⟩ := hvac c (hc.symm.trans hcopy) z hz
    exact hne z hz hzx
  · cases ht
    rw [hd] at hy
    obtain ⟨hn, hrest⟩ := h.dropped s y rfl hy
    exact ⟨hne y hn (hdrop y hy), hrest⟩

theorem Owned.delete {c : Resource Spec Status} {req : Api} {x : String}
    (h : Owned K k₀ w (some s)) (hmem : c ∈ w.store.versions) (hb : K.bound c = some x)
    (hdel : K.deletes req = some x) (hf : s'.fresh = s.fresh) (hc : s'.copy = s.copy)
    (hd : s'.dropped = K.drops req ++ s.dropped)
    (hh : ¬ AllRecorded K w → s'.hindered = true → s.hindered = true) :
    Owned K k₀ (w.without (k₀, x)) (some s') := by
  have hsame : Owned K k₀ w (some { s' with dropped := s.dropped }) := h.session hf (.inr hc) rfl hh
  have hgone : (k₀, x) ∉ (w.without (k₀, x)).own := fun ho => by simp [World.without] at ho
  have hless : Owned K k₀ (w.without (k₀, x)) (some { s' with dropped := s.dropped }) := by
    refine hsame.shrink rfl List.filter_sublist (fun o ho => ?_)
    obtain ⟨ho, hne⟩ := List.mem_filter.mp ho
    exact List.mem_filter.mpr ⟨h.exist o ho, hne⟩
  refine ⟨hless.key, hless.exist, hless.nodup, fun o ho => ?_, fun t y ht => ?_, fun t y ht => ?_,
    fun t y ht hy => ?_⟩
  · obtain ⟨hk, hrec⟩ := hless.recorded o ho
    refine ⟨hk, hrec.imp id ?_⟩
    rintro ⟨t, ht, hx⟩
    cases ht
    exact ⟨s', rfl, hx⟩
  · cases ht
    exact hless.calm { s' with dropped := s.dropped } y rfl
  · cases ht
    exact hless.vacant { s' with dropped := s.dropped } y rfl
  · cases ht
    rw [hd] at hy
    rcases List.mem_append.mp hy with hy | hy
    · unfold Kind.drops at hy
      split at hy
      · rename_i hrep
        rw [hdel] at hy
        cases List.mem_singleton.mp hy
        exact ⟨hgone, hrep, c, hmem, hb⟩
      · cases hy
    · exact hless.dropped _ y rfl hy

theorem Owned.serve {conn : ResolvedInstance} {req : Api} {a : Service.Result req}
    {result : (req : Api) → Option (Service.Result req)} {lost : Option Error} (hK : K.ByStatus)
    (h : Owned K k₀ w (some s)) (ht : Tied w s) (hmay : K.MayCall lib s conn req)
    (hres : result req = some a) (hrel : Reliable K w (.api conn req) (.served result lost))
    (hh : K.creates req = true ∨ ¬ AllRecorded K w →
      s'.hindered = true → s.hindered = true ∧ s'.fresh = s.fresh)
    (hcopy : s'.copy = s.copy)
    (hout : lost = none ∧ s'.fresh = (K.takes req a).or s.fresh ∨
      lost.isSome = true ∧ s'.fresh = s.fresh)
    (hd : s'.dropped = K.drops req ++ s.dropped) :
    Owned K k₀ (World.serve K lib home (World.request K w conn.inst.metadata.key req) conn req a)
      (some s') := by
  obtain ⟨subj, c, hconn, hc, -, hcre, hdel⟩ := hmay
  have hk : conn.inst.metadata.key = k₀ := by
    rw [hconn.key]
    exact h.key subj (ht.subj _ _ hconn.inst)
  have hmem := ht.copy c hc
  have hcalm : ¬ AllRecorded K w → s'.hindered = true → s.hindered = true :=
    fun hn hx => (hh (.inr hn) hx).1
  have hreq := h.request conn.inst.metadata.key req
  unfold World.serve
  dsimp only
  rw [hk] at hreq ⊢
  cases hcr : K.creates req with
  | true =>
    rw [if_pos rfl]
    obtain ⟨rfl, hnew⟩ := hrel hcr
    obtain ⟨hnone, -, hfree⟩ := hcre (.inl hcr)
    have hd' : s'.dropped = s.dropped := by
      rw [hd, Kind.drops_of_none (hK.deletes req hcr)]
      rfl
    have hfresh : s'.fresh = (K.takes req a).or s.fresh := by
      rcases hout with ⟨-, hf⟩ | ⟨hl, -⟩
      · exact hf
      · cases hl
    rcases htake : K.takes req a with _ | x
    · rw [htake] at hfresh
      exact (h.session hfresh (.inr hcopy) hd' hcalm).request k₀ req
    rw [htake] at hfresh
    obtain ⟨hx, hnever⟩ := hnew a hres x htake
    refine hreq.create hnone ?_ (fun d hd y hy => ?_) (fun y hy => ?_) hfresh hcopy hd' ?_
    · rw [(request_own _ _).2, ← hk]
      exact hx
    · -- the copy is unbound, or its object was given up
      rw [hc] at hd
      cases hd
      rcases hfree with hname | hunbound | ⟨z, hz, hbound⟩
      · rw [hK.byName] at hname
        cases hname
      · rw [hunbound] at hy
        cases hy
      · rw [hy] at hbound
        cases hbound
        obtain ⟨hn, hrep, -⟩ := hreq.dropped s y rfl hz
        refine ⟨hn, fun hyx => hnever hrep c hmem ?_⟩
        rw [hy, hyx]
    · obtain ⟨-, hrep, v, hv, hbound⟩ := h.dropped s y rfl hy
      refine fun hyx => hnever hrep v hv ?_
      rw [hbound, hyx]
    · cases hh' : s'.hindered with
      | false => rfl
      | true =>
        have hsame := (hh (.inl hcr) hh').2
        rw [hfresh, hnone] at hsame
        cases hsame
  | false =>
    have htake : K.takes req a = none := by
      cases htake : K.takes req a with
      | none => rfl
      | some x =>
        rw [hK.takes req a x htake] at hcr
        cases hcr
    have hfresh : s'.fresh = s.fresh := by
      rcases hout with ⟨-, hf⟩ | ⟨-, hf⟩
      · rw [hf, htake]
        rfl
      · exact hf
    rw [if_neg Bool.false_ne_true]
    cases hdelete : K.deletes req with
    | none =>
      refine (h.session hfresh (.inr hcopy) ?_ hcalm).request k₀ req
      rw [hd, Kind.drops_of_none hdelete]
      rfl
    | some x =>
      refine hreq.delete ?_ (hdel x hdelete).bound hdelete hfresh hcopy hd (fun hn => hcalm ?_)
      · rw [(request_store _ _).1]
        exact hmem
      · intro hall
        refine hn (fun o ho => ?_)
        rw [(request_own _ _).1] at ho
        unfold Kind.headBound
        rw [(request_store _ _).1]
        exact hall o ho

theorem owned_of_move {op : Op Spec Status Api} {rep : Reply Api} (hK : K.ByStatus)
    (h : Owned K k₀ w (some s)) (ht : Tied w s) (hrel : Reliable K w op rep)
    (hh : op.creates K = true ∨ ¬ AllRecorded K w →
      s'.hindered = true → s.hindered = true ∧ s'.fresh = s.fresh)
    (hm : Moves K lib home w s op rep w' s') : Owned K k₀ w' (some s') := by
  have hcalm : ¬ AllRecorded K w → s'.hindered = true → s.hindered = true :=
    fun hn hx => (hh (.inr hn) hx).1
  have hframe : ∀ t, Owned K k₀ w (some t) → Frame w w' → w'.store = w.store →
      Owned K k₀ w' (some t) := by
    intro t hO hw hstore
    refine hO.shrink hstore (by rw [hw.own]) (fun o ho => ?_)
    rw [hw.own] at ho
    rw [hw.objects]
    exact h.exist o ho
  cases hm with
  | quiet hw hstore hcopy hinst hf hd =>
    exact hframe s' (h.session hf (.inr hcopy) hd hcalm) hw hstore
  | reads hw hstore v hv hcopy hpend hf hd | resolves hw hstore hcopy hpend hf hd =>
    exact hframe s' (h.session (hf.trans hpend.symm) (.inl hpend) hd hcalm) hw hstore
  | writes c v r hc hst hmay hmark hinst hd hout => exact h.write hK hc hst hmay hd hout
  | patches cur v r hpend hst hb ha hf hd =>
    have hs' := h.session (hf.trans hpend.symm) (.inl hpend) hd hcalm
    refine hs'.rebind hst.written hst.rest (refKey_of_stores hst) (fun x _ hx => ?_)
    rw [hb]
    exact hx
  | refused conn req e hop hrep hmay hw hcopy hinst hf hd =>
    subst hop hrep hw
    have hd' : s'.dropped = s.dropped := by
      rw [hd]
      unfold Kind.drops
      split
      · rename_i hrepl
        rw [hrel hrepl]
        rfl
      · rfl
    exact (h.session hf (.inr hcopy) hd' hcalm).request _ req
  | served conn req a result lost hop hrep hres hmay hw hcopy hinst hout hd =>
    subst hop hrep hw
    exact h.serve hK ht hmay hres hrel hh hcopy hout hd

/-! ## Runs -/

section

variable [DecidableEq Spec] [DecidableEq Status]

theorem hindered_of_next {op : Op Spec Status Api} {rep : Reply Api} {r : op.Resp} (ht : Tied w s)
    (hu : Unhindered K lib home w op rep) (ha : World.answer K lib home w op rep = some (r, w'))
    (hh : (K.next s op r).hindered = true) :
    s.hindered = true ∧ (K.next s op r).fresh = s.fresh := by
  have hquiet : s.copy.any (fun c => K.hinders c op r) = false := by
    cases hc : s.copy with
    | none => rfl
    | some c => exact hu (r, w') ha c (ht.copy c hc)
  have hor : ((s.hindered && decide ((K.next s op r).fresh = s.fresh)) ||
      s.copy.any (fun c => K.hinders c op r)) = true := hh
  rw [hquiet, Bool.or_false, Bool.and_eq_true] at hor
  exact ⟨hor.1, of_decide_eq_true hor.2⟩

variable (home k₀) in
/-- **Along recording runs every object is recorded or pending.** -/
theorem owned_invariant {cleared : Option (Status → Status)}
    {reconcile : Ctl Spec Status Api (Result × Option Error)} (hK : K.ByStatus)
    (hc : Clears K cleared) (hf : (K.session lib).wp reconcile (fun _ s => Kind.Final s) {}) :
    Invariant (lifecycle K lib cleared home reconcile) (K.session lib) (recording K lib home) {}
      Kind.Final (fun w s? => Owned K k₀ w s? ∧ ∀ s, s? = some s → Tied w s) where
  main := by
    show (K.session lib).wp (reconcile >>= fun _ => pure ()) _ _
    rw [Protocol.wp_bind]
    exact hf
  env w w' e s? h he hx := by
    have hs := shifted hc hx
    exact ⟨owned_of_shift hK h.1 he hs, fun s hs' => (h.2 s hs').shift hs⟩
  start w h := by
    refine ⟨⟨h.1.key, h.1.exist, h.1.nodup, fun o ho => ?_, fun s x hs hx => ?_,
      fun s x hs hx => ?_, fun s y hs hy => ?_⟩, fun s hs => ?_⟩
    · obtain ⟨hk, hrec | ⟨t, ht, -⟩⟩ := h.1.recorded o ho
      · exact ⟨hk, .inl hrec⟩
      · cases ht
    all_goals cases hs
    · cases hx
    · cases hx
    · cases hy
    · exact Tied.start w
  step w w' s op rep r h ha hG hx := by
    have ht := h.2 s rfl
    obtain ⟨hexp, ht', hm⟩ := answered ht ha hx
    refine ⟨hexp, owned_of_move hK h.1 ht hG.1 (fun hor hh => ?_) hm, fun t hs => ?_⟩
    · exact hindered_of_next ht (hG.2 hor) hx hh
    · cases hs
      exact ht'
  finish w s h hfin := by
    refine ⟨⟨h.1.key, h.1.exist, h.1.nodup, fun o ho => ?_, fun s x hs => (by cases hs),
      fun s x hs => (by cases hs), fun s y hs => (by cases hs)⟩, fun s hs => (by cases hs)⟩
    obtain ⟨hk, hrec⟩ := h.1.recorded o ho
    refine ⟨hk, .inl ?_⟩
    by_contra hne
    rcases hrec with hrec | ⟨t, ht, hx⟩
    · exact hne hrec
    · cases ht
      have hcalm := h.1.calm s o.2 rfl hx (by rw [← hk]; exact ho) hne
      rcases hfin with hnone | hh
      · rw [hnone] at hx
        cases hx
      · rw [hh] at hcalm
        cases hcalm
  crash w s h hall :=
    ⟨⟨h.1.key, h.1.exist, h.1.nodup, fun o ho => ⟨(h.1.recorded o ho).1, .inl (hall o ho)⟩,
      fun s x hs => (by cases hs), fun s x hs => (by cases hs), fun s y hs => (by cases hs)⟩,
      fun s hs => (by cases hs)⟩

end

end

/-! ## The kinds bound by their status -/

theorem ApiKind.byStatus (n : ApiKind) (hc : n ≠ .customer) (hd : n ≠ .credential) :
    n.reconciler.kind.ByStatus := by
  cases n with
  | customer => exact absurd rfl hc
  | credential => exact absurd rfl hd
  | virtualKey | team | user | organization | budget | model =>
    refine ⟨fun req a x h => ?_, fun _ _ => rfl, rfl, fun req h => ?_⟩
    all_goals rcases req <;> first
      | rfl
      | cases h

theorem owned_initial (R : Reconciler) (cr : R.CR) :
    Owned R.kind (R.kind.refKey cr) (World.initial cr) none where
  key v hv := by rw [List.mem_singleton.mp hv]
  exist o ho := by cases ho
  nodup := List.nodup_nil
  recorded o ho := by cases ho
  calm s x hs := by cases hs
  vacant s x hs := by cases hs
  dropped s y hs := by cases hs

/-- **One object per resource, along recording runs.** Between two reconciles an organization,
model, virtual key or team has at most one object in LiteLLM that it has created, and that is the
one in its stored status. -/
theorem one_object_per_resource (n : ApiKind)
    (hn : n = .organization ∨ n = .model ∨ n = .virtualKey ∨ n = .team) (lib : Ext)
    (req : NamespacedName) (cr : n.reconciler.CR) (c : n.reconciler.RConf)
    (hr : (n.reconciler.machine lib req).Reaches (recording n.reconciler.kind lib req.ns)
      (n.reconciler.initial cr) c) (hidle : c.running = none) :
    c.world.own.length ≤ 1 ∧ ∀ o ∈ c.world.own, n.reconciler.kind.headBound c.world = some o.2 := by
  have hK : n.reconciler.kind.ByStatus := by
    refine n.byStatus ?_ ?_
    · rintro rfl
      simp at hn
    · rintro rfl
      simp at hn
  obtain ⟨h, -⟩ := (owned_invariant req.ns (n.reconciler.kind.refKey cr) hK
    n.reconciler.clears (n.reconciler.follows lib req)).reach_idle (c := n.reconciler.initial cr)
    ⟨owned_initial n.reconciler cr, fun s hs => (by cases hs)⟩ hr hidle
  have hall : ∀ o ∈ c.world.own, o.1 = n.reconciler.kind.refKey cr ∧
      n.reconciler.kind.headBound c.world = some o.2 := by
    intro o ho
    obtain ⟨hk, hrec | ⟨s, hs, -⟩⟩ := h.recorded o ho
    · exact ⟨hk, hrec⟩
    · cases hs
  refine ⟨?_, fun o ho => (hall o ho).2⟩
  -- two of them would be the same object
  have heq : ∀ o ∈ c.world.own, ∀ o' ∈ c.world.own, o = o' := by
    intro o ho o' ho'
    obtain ⟨hk, hb⟩ := hall o ho
    obtain ⟨hk', hb'⟩ := hall o' ho'
    exact Prod.ext (hk.trans hk'.symm) (Option.some.inj (hb.symm.trans hb'))
  match hown : c.world.own, h.nodup with
  | [], _ => exact Nat.zero_le 1
  | [_], _ => exact Nat.le_refl 1
  | a :: b :: l, hnodup =>
    have hab : a = b := heq a (by simp [hown]) b (by simp [hown])
    simp [hab] at hnodup

theorem one_object_per_resource_organization : ∃ c : Reconciler.organization.RConf,
      (Reconciler.organization.machine Sample.lib ⟨"apps", "org"⟩).Reaches
        (recording Reconciler.organization.kind Sample.lib "apps")
        (Reconciler.organization.initial (Sample.organization "a")) c ∧
      c.running.isNone = true ∧ c.world.own = [(⟨"apps", "a"⟩, "org-1")] ∧
      c.world.own.length ≤ 1 ∧
      ∀ o ∈ c.world.own, Reconciler.organization.kind.headBound c.world = some o.2 := by
  have hrun : ((Reconciler.organization.machine Sample.lib ⟨"apps", "org"⟩).run
      (recording Reconciler.organization.kind Sample.lib "apps")
      (Reconciler.organization.initial (Sample.organization "a"))
      Sample.organizationCreated).map (fun c => (c.running.isNone, c.world.own)) =
        some (true, [(⟨"apps", "a"⟩, "org-1")]) := by
    rfl
  obtain ⟨c, hc, hdata⟩ := Option.map_eq_some_iff.mp hrun
  obtain ⟨hidle, hown⟩ := Prod.mk.inj hdata
  have hr := Machine.reaches_of_run _ _ (.refl _) hc
  exact ⟨c, hr, hidle, hown, one_object_per_resource .organization (.inl rfl) Sample.lib
    ⟨"apps", "org"⟩ (Sample.organization "a") c hr (Option.isNone_iff_eq_none.mp hidle)⟩

/-! ## Failed writes -/

/-- Only reconciles, in which only Kubernetes calls fail: LiteLLM answers every request, and creates
objects under new ids. -/
def onlyWritesFail {Spec Status Api : Type} [Service Api] (K : Kind Spec Status Api) :
    Side Spec Status Api where
  env _ _ := False
  reply w op rep :=
    match op, rep with
    | .api conn req, .served result lost => lost = none ∧ ∀ a ∈ result req, ∀ x ∈ K.takes req a,
        (conn.inst.metadata.key, x) ∉ w.asked
    | .api _ _, _ => False
    | _, _ => True
  crash _ := False

instance {Spec Status Api : Type} [Service Api] (K : Kind Spec Status Api) :
    (onlyWritesFail K).Decides where
  env _ _ := .isFalse id
  reply w op rep := by
    unfold onlyWritesFail
    rcases op with _ | _ <;> rcases rep with _ | _ <;> infer_instance
  crash _ := .isFalse id

/-- The first reconcile of an organization, in which both writes that would record the new id
fail; and a second one, without failures. -/
def Sample.organizationTwice : List Reconciler.organization.RAction :=
  [.start, .step (.cached 0), .step .done, .step (.found found), .step (.found found),
    .step (.served (organizationServed "org-1") none), .step (.fail (errorf "timeout")),
    .step (.fail (errorf "timeout")),
    .start, .step (.cached 0), .step (.found found), .step (.found found),
    .step (.served (organizationServed "org-2") none), .step .done, .step .done,
    .step (.served (organizationServed "org-2") none), .step .done]

/-- **A failed status write leaves two objects behind.** The organization is created, both writes of
its status fail, and the next reconcile creates it again. -/
theorem two_objects_after_failed_writes :
    ¬ ∀ (n : ApiKind), n = .organization ∨ n = .model ∨ n = .virtualKey ∨ n = .team →
      ∀ (lib : Ext) (req : NamespacedName) (cr : n.reconciler.CR) (c : n.reconciler.RConf),
      (n.reconciler.machine lib req).Reaches (onlyWritesFail n.reconciler.kind)
        (n.reconciler.initial cr) c → c.running = none →
      c.world.own.length ≤ 1 ∧
        ∀ o ∈ c.world.own, n.reconciler.kind.headBound c.world = some o.2 := by
  intro hall
  have hrun : ((Reconciler.organization.machine Sample.lib ⟨"apps", "org"⟩).run
      (onlyWritesFail Reconciler.organization.kind)
      (Reconciler.organization.initial (Sample.organization "a"))
      Sample.organizationTwice).map (fun c => (c.running.isNone, c.world.own)) =
        some (true, [(⟨"apps", "a"⟩, "org-2"), (⟨"apps", "a"⟩, "org-1")]) := by
    rfl
  obtain ⟨c, hc, hdata⟩ := Option.map_eq_some_iff.mp hrun
  obtain ⟨hidle, hown⟩ := Prod.mk.inj hdata
  have hone := (hall .organization (.inl rfl) Sample.lib ⟨"apps", "org"⟩ (Sample.organization "a") c
    (Machine.reaches_of_run _ _ (.refl _) hc) (Option.isNone_iff_eq_none.mp hidle)).1
  rw [hown] at hone
  exact absurd hone (by decide)

end LitellmOperator
