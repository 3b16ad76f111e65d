import LitellmOperator.Instance.Frame

/-! # The annotations of the pod template

What `preserveExternalPodTemplateAnnotations` takes over from the live template. Merging the same
desired annotations again changes nothing (`Settled`): over any run of reconciles with one desired
template, the live annotations are those stored first and what others have added since.
-/

set_option autoImplicit false

namespace LitellmOperator

open Go Kube

abbrev Annotations : Type := Option (StrMap String)

namespace Annotations

/-- What a map that may be nil has under a key. -/
def entryAt (m : Annotations) (k : String) : Option String := (m.getD []).get? k

variable {existing desired m m' m'' : Annotations}

/-! ## One merge -/

theorem entryAt_assign (m : Annotations) (k k' v : String) :
    entryAt (assign m k v) k' = if k = k' then some v else entryAt m k' := by
  unfold entryAt assign
  by_cases h : k = k'
  · subst h
    simp
  · simp [h, StrMap.get?_set_ne _ _ h]

/-- What the merge has under a key: the desired entry, or one that is not the operator's. -/
def mergedAt (existing desired : Annotations) (k : String) : Option String := (entryAt desired k).or
    (if k ∈ operatorManagedPodTemplateAnnotations then none else entryAt existing k)

theorem entryAt_preserveExternal (existing desired : Annotations) (k : String) :
    entryAt (preserveExternalPodTemplateAnnotations existing desired) k =
      mergedAt existing desired k := by
  unfold preserveExternalPodTemplateAnnotations mergedAt
  rw [show entryAt existing k = (existing.getD []).get? k from rfl]
  generalize existing.getD [] = es
  induction es generalizing desired with
  | nil => simp [StrMap.get?]
  | cons e es ih =>
    rw [List.foldl_cons, ih, StrMap.get?_cons]
    by_cases hm : e.1 ∈ operatorManagedPodTemplateAnnotations
    · by_cases hk : e.1 = k
      · simp [← hk, hm]
      · simp [hm, hk]
    · rcases hd : entryAt desired e.1 with _ | w
      · -- the first entry under a key is the one that is taken over
        rw [if_neg (by simpa using hm), if_neg (by simp [show StrMap.get? _ _ = none from hd]),
          entryAt_assign]
        by_cases hk : e.1 = k
        · simp [hk ▸ hd, hk ▸ hm, hk]
        · simp [hk]
      · rw [if_neg (by simpa using hm), if_pos (by simp [show StrMap.get? _ _ = some w from hd])]
        by_cases hk : e.1 = k
        · simp [hk ▸ hd]
        · simp [hk]

/-! ## Merging again -/

/-- Merging `desired` into `m` changes nothing. -/
def Settled (desired m : Annotations) : Prop := ∀ k, mergedAt m desired k = entryAt m k

/-- `m'` is `m` with annotations that others have added, under new keys that are not the
operator's. -/
structure Extends (m m' : Annotations) : Prop where
  keeps : ∀ k v, entryAt m k = some v → entryAt m' k = some v
  managed : ∀ k ∈ operatorManagedPodTemplateAnnotations, entryAt m' k = entryAt m k

theorem settled_of_merged (h : ∀ k, entryAt m k = mergedAt existing desired k) :
    Settled desired m := by
  intro k
  unfold mergedAt
  rw [h]
  unfold mergedAt
  cases entryAt desired k with
  | some v => rfl
  | none => split <;> rfl

theorem Settled.extends (h : Settled desired m) (he : Extends m m') : Settled desired m' := by
  intro k
  have hk := h k
  unfold mergedAt at hk ⊢
  rcases hd : entryAt desired k with _ | v
  · rw [hd] at hk
    split
    · rename_i hm
      rw [if_pos hm] at hk
      rw [he.managed k hm, ← hk]
    · rfl
  · rw [hd] at hk
    exact (he.keeps k v hk.symm).symm

/-- What may become of stored annotations while the desired ones stay the same. -/
inductive Since (desired m : Annotations) : Annotations → Prop
  | refl : Since desired m m
  | adds {m' m'' : Annotations} : Since desired m m' → Extends m' m'' → Since desired m m''
  | reconciles {m' m'' : Annotations} : Since desired m m' → (∀ k, entryAt m'' k =
    entryAt (preserveExternalPodTemplateAnnotations m' desired) k) → Since desired m m''

/-- Along a run the annotations stay settled, and only additions accumulate. -/
theorem Since.settled (h : Settled desired m) (hs : Since desired m m') :
    Settled desired m' ∧ Extends m m' := by
  induction hs with
  | refl => exact ⟨h, fun _ _ hv => hv, fun _ _ => rfl⟩
  | adds _ hext ih =>
    obtain ⟨hset, hk, hm⟩ := ih
    exact ⟨hset.extends hext, fun k v hv => hext.keeps k v (hk k v hv),
      fun k hmem => (hext.managed k hmem).trans (hm k hmem)⟩
  | reconciles _ hmerge ih =>
    obtain ⟨hset, hk, hm⟩ := ih
    have hsame := fun k => (hmerge k).trans (entryAt_preserveExternal _ _ k)
    exact ⟨settled_of_merged hsame, fun k v hv => ((hsame k).trans (hset k)).trans (hk k v hv),
      fun k hmem => ((hsame k).trans (hset k)).trans (hm k hmem)⟩

theorem distinct_preserveExternal (existing : Annotations) (h : (desired.getD []).Distinct) :
    ((preserveExternalPodTemplateAnnotations existing desired).getD []).Distinct := by
  unfold preserveExternalPodTemplateAnnotations
  generalize existing.getD [] = es
  induction es generalizing desired with
  | nil => exact h
  | cons e es ih =>
    rw [List.foldl_cons]
    refine ih ?_
    split
    · exact h
    · split
      · exact h
      · exact h.set e.1 e.2

/-- A Deployment some time after its template annotations were merged with those of `wanted`. -/
structure Redeployed where
  existing : Annotations
  wanted : Deployment
  live : Deployment
  wanted_distinct : (wanted.spec.template.annotations.getD []).Distinct
  live_distinct : (live.spec.template.annotations.getD []).Distinct
  since : Since wanted.spec.template.annotations
    (preserveExternalPodTemplateAnnotations existing wanted.spec.template.annotations)
    live.spec.template.annotations

namespace Redeployed

abbrev wants (r : Redeployed) : Annotations := r.wanted.spec.template.annotations

abbrev annotations (r : Redeployed) : Annotations := r.live.spec.template.annotations

/-- What the controller would make of the live Deployment. -/
abbrev updated (r : Redeployed) : Kube.DeploymentSpec := (updatedDeployment r.live r.wanted).spec

end Redeployed

/-- **Template annotations merge to a fixpoint.** The merge has the desired entries and the
existing ones that are neither the operator's nor desired. Merged again after any run with the same
desired annotations, it is what is live: what was stored and what others have added. No annotation
of the operator outlives its absence from the desired ones, and whether the Deployment is written
does not depend on the annotations. -/
theorem template_annotations_settle :
    (∀ existing desired k, entryAt (preserveExternalPodTemplateAnnotations existing desired) k =
      mergedAt existing desired k) ∧
    ∀ r : Redeployed,
      Extends (preserveExternalPodTemplateAnnotations r.existing r.wants) r.annotations ∧
      (∀ k, entryAt (preserveExternalPodTemplateAnnotations r.annotations r.wants) k =
        entryAt r.annotations k) ∧
      (∀ k ∈ operatorManagedPodTemplateAnnotations, entryAt r.wants k = none →
        entryAt r.annotations k = none) ∧
      r.live.spec.deepEqual r.updated =
        r.live.spec.deepEqual { r.updated with template.annotations := r.annotations } := by
  refine ⟨entryAt_preserveExternal, fun r => ?_⟩
  obtain ⟨hset, hext⟩ := r.since.settled (settled_of_merged (entryAt_preserveExternal _ _))
  have hsame := fun k => (entryAt_preserveExternal _ _ k).trans (hset k)
  refine ⟨hext, hsame, fun k hm hnone => ?_, ?_⟩
  · rw [← hset]
    unfold mergedAt
    rw [hnone, if_pos hm]
    rfl
  · have hcanon : canonicalMap r.updated.template.annotations = canonicalMap r.annotations :=
      congrArg some (StrMap.canonical_congr (distinct_preserveExternal _ r.wanted_distinct)
        r.live_distinct hsame)
    have hspec : r.updated.canonical =
        Kube.DeploymentSpec.canonical { r.updated with template.annotations := r.annotations } := by
      unfold Kube.DeploymentSpec.canonical PodTemplateSpec.canonical
      rw [hcanon]
    unfold Kube.DeploymentSpec.deepEqual
    rw [hspec]

/-- A Deployment with these annotations on its template. -/
def Sample.annotated (annotations : StrMap String) : Deployment where
  metadata := { name := "proxy", ns := "apps" }
  spec := { template := { annotations := some annotations } }
  status := {}

/-- The digest of the configuration changes, and someone restarts the pods. -/
def Sample.restarted : Redeployed where
  existing := some [(annotationConfigHash, "old")]
  wanted := annotated [(annotationConfigHash, "new")]
  live := annotated [(annotationConfigHash, "new"), ("restartedAt", "monday")]
  wanted_distinct := by decide
  live_distinct := by decide
  since := by
    have hnew : ∀ k, entryAt (some [(annotationConfigHash, "new"), ("restartedAt", "monday")]) k =
        if "restartedAt" = k then some "monday"
        else entryAt (some [(annotationConfigHash, "new")]) k :=
      fun k => entryAt_assign (some [(annotationConfigHash, "new")]) "restartedAt" k "monday"
    refine .adds .refl ⟨fun k v hv => ?_, fun k hk => ?_⟩
    · rw [← hv]
      exact (hnew k).trans (if_neg (by rintro rfl; cases hv))
    · exact (hnew k).trans (if_neg (by rintro rfl; exact absurd hk (by decide)))

theorem template_annotations_settle_restarted :
    entryAt Sample.restarted.annotations "restartedAt" = some "monday" ∧
      ∀ k, entryAt (preserveExternalPodTemplateAnnotations Sample.restarted.annotations
        Sample.restarted.wants) k = entryAt Sample.restarted.annotations k :=
  ⟨by decide, (template_annotations_settle.2 Sample.restarted).2.1⟩

end Annotations

end LitellmOperator
