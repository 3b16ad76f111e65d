import LitellmOperator.Instance.Unmanaged

/-! # Which pods an instance selects

The Service, the PodDisruptionBudget, the NetworkPolicy and the pod list of `inspectPodHealth` select
pods by the labels of the instance. Its Deployment and its migration Job both put these labels on
their pods.
-/

set_option autoImplicit false

namespace LitellmOperator

open Go Kube InstanceCtl

/-- A selector of pods: a namespace and the labels to match. -/
abbrev PodSelector : Type := String × StrMap String

def PodSelector.Matches (s : PodSelector) (pod : Pod) : Prop := pod.metadata.ns = s.1 ∧
    ∀ entry ∈ s.2, StrMap.get? (pod.metadata.labels.getD []) entry.1 = some entry.2

/-- The pods a program asks for before anything else. -/
def podsAsked {α : Type} : InstanceCtl α → Option PodSelector
  | .call (.listPods ns labels) _ => some (ns, labels)
  | _ => none

/-- By what the children of an instance and the inspection of its pods select. -/
def podSelectors (inst : LiteLLMInstance) : List PodSelector :=
  let labels := labelsForInstance inst.metadata.name
  let service := buildService inst labels
  let pdb := (buildPDB inst labels).map (fun pdb => (pdb.metadata.ns, pdb.spec.selector))
  let policy := (buildNetworkPolicy inst labels).map
    (fun policy => (policy.metadata.ns, policy.spec.podSelector))
  (service.metadata.ns, service.spec.selector) ::
    (pdb.toList ++ policy.toList ++ (podsAsked (inspectPodHealth inst)).toList)

/-- What creates the pods of an instance. -/
inductive PodSource where
  | deployment (licenseSecretName : String) (guardrails : List LiteLLMGuardrail)
  | migrationJob

def PodSource.template (lib : InstanceExt) (inst : LiteLLMInstance) : PodSource → PodTemplateSpec
  | .deployment licenseSecretName guardrails =>
    (buildDeployment inst (labelsForInstance inst.metadata.name) licenseSecretName
      guardrails).spec.template
  | .migrationJob =>
    (buildMigrationJob lib inst (labelsForInstance inst.metadata.name)).spec.template

/-- Instances of one namespace. -/
structure Neighbours where
  insts : List LiteLLMInstance
  ns : String
  together : ∀ inst ∈ insts, inst.metadata.ns = ns
  distinct : ∀ inst ∈ insts, ∀ inst' ∈ insts, inst.metadata.name = inst'.metadata.name → inst = inst'

namespace Neighbours

variable (lib : InstanceExt) (N : Neighbours)

abbrev Member : Type := { inst : LiteLLMInstance // inst ∈ N.insts }

/-- A pod created from a template of one of the instances. It has the labels of the template, and
what else the cluster adds. -/
structure CreatedPod where
  pod : Pod
  inst : N.Member
  source : PodSource
  ns : pod.metadata.ns = inst.1.metadata.ns
  labels : ∀ key value, StrMap.get? (source.template lib inst.1).labels key = some value →
    StrMap.get? (pod.metadata.labels.getD []) key = some value

variable {lib N}

namespace CreatedPod

variable (p : N.CreatedPod lib)

def FromDeployment (inst : N.Member) : Prop :=
  p.inst = inst ∧ p.source ≠ .migrationJob

def FromMigrationJob (inst : N.Member) : Prop :=
  p.inst = inst ∧ p.source = .migrationJob

theorem eq_of_mem_podSelectors {inst : LiteLLMInstance} {s : PodSelector}
    (h : s ∈ podSelectors inst) : s = (inst.metadata.ns, labelsForInstance inst.metadata.name) := by
  rcases List.mem_cons.mp h with rfl | h
  · rfl
  rw [List.mem_append, List.mem_append, Option.mem_toList, Option.mem_toList, Option.mem_toList,
    Option.map_eq_some_iff, Option.map_eq_some_iff] at h
  rcases h with (⟨pdb, hpdb, rfl⟩ | ⟨policy, hpolicy, rfl⟩) | hpods
  · unfold buildPDB at hpdb
    split at hpdb
    · cases hpdb
    split at hpdb
    · cases hpdb
    cases hpdb
    dsimp only
    split <;> rfl
  · unfold buildNetworkPolicy at hpolicy
    split at hpolicy
    · cases hpolicy
    split at hpolicy
    · cases hpolicy
    cases hpolicy
    rfl
  · exact (Option.some.inj hpods).symm

theorem matches_iff (inst : N.Member) :
    PodSelector.Matches (inst.1.metadata.ns, labelsForInstance inst.1.metadata.name) p.pod ↔
      p.inst = inst := by
  have htemplate : (p.source.template lib p.inst.1).labels =
      labelsForInstance p.inst.1.metadata.name := by
    cases p.source with
    | deployment licenseSecretName guardrails | migrationJob => rfl
  have hlabels := p.labels
  rw [htemplate] at hlabels
  constructor
  · intro h
    -- the label with the name of the instance decides
    have hname := (hlabels labelInstanceName p.inst.1.metadata.name rfl).symm.trans
      (h.2 (labelInstanceName, inst.1.metadata.name) (by simp [labelsForInstance]))
    exact Subtype.ext (N.distinct _ p.inst.2 _ inst.2 (Option.some.inj hname))
  · rintro rfl
    refine ⟨p.ns, fun entry hentry => hlabels _ _ ?_⟩
    simp only [labelsForInstance, List.mem_cons, List.not_mem_nil, or_false] at hentry
    rcases hentry with rfl | rfl | rfl <;> rfl

/-- **What the selectors match.** The selectors of an instance match the pods of its Deployment and
no others, but for the pods of its migration Job, which they match too. -/
theorem selected_iff_fromDeployment (p : N.CreatedPod lib) (inst : N.Member) :
    (∀ s ∈ podSelectors inst.1, s.Matches p.pod ↔ p.FromDeployment inst) ↔
      ¬ p.FromMigrationJob inst := by
  constructor
  · rintro h ⟨hinst, hjob⟩
    have hservice := h _ (List.mem_cons_self ..)
    exact (hservice.mp ((p.matches_iff inst).mpr hinst)).2 hjob
  · intro h s hs
    rw [eq_of_mem_podSelectors hs, matches_iff]
    exact ⟨fun hinst => ⟨hinst, fun hjob => h ⟨hinst, hjob⟩⟩, fun hdeployment => hdeployment.1⟩

end CreatedPod

end Neighbours

namespace Sample

/-- An instance whose database is migrated by a Job. -/
def migrated : LiteLLMInstance where
  metadata := { name := "proxy", ns := "apps" }
  spec := { database := { migration := some { enabled := true } } }
  status := {}

end Sample

/-- The Service sends requests to a pod that runs the migration. -/
theorem migration_pod_selected :
    ∃ (N : Neighbours) (p : N.CreatedPod Sample.instanceLib) (inst : N.Member),
      ¬ p.FromDeployment inst ∧ PodSelector.Matches ("apps", (buildService inst.1
        (labelsForInstance inst.1.metadata.name)).spec.selector) p.pod := by
  let N : Neighbours := ⟨[Sample.migrated], "apps", by decide, by simp⟩
  let inst : N.Member := ⟨Sample.migrated, List.mem_singleton_self _⟩
  let pod : Pod :=
    { metadata :=
        { name := "proxy-migrate", ns := "apps", labels := some (labelsForInstance "proxy") }
      spec := ()
      status := { phase := "Running" } }
  let p : N.CreatedPod Sample.instanceLib := ⟨pod, inst, .migrationJob, rfl, fun _ _ h => h⟩
  exact ⟨N, p, inst, fun h => h.2 rfl, (p.matches_iff inst).mpr rfl⟩

end LitellmOperator
