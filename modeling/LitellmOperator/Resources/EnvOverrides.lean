import LitellmOperator.Lists.Keyed
import LitellmOperator.Resources.Deployment

/-! # Overriding environment variables

`mergeEnvVars` lays the user's variables over the operator's. The kubelet reads the last entry of a
name and expands a reference to the entries before it, so both the entry and its place matter
(`Overrides`).
-/

set_option autoImplicit false

namespace LitellmOperator

open Kube Keyed

abbrev envNames (vars : List EnvVar) : List String := vars.map EnvVar.name

/-- `merged` is the operator's list with the user's entries laid over it. -/
structure Overrides (operator user merged : List EnvVar) : Prop where
  /-- The user's entry counts, if there is one of the name. -/
  theirs : ∀ e ∈ user, last EnvVar.name merged e.name = some e
  /-- Otherwise the operator's last one does. -/
  ours : ∀ name, name ∉ envNames user → last EnvVar.name merged name = last EnvVar.name operator name
  occurs : ∀ name, name ∈ envNames merged ↔ name ∈ envNames operator ∨ name ∈ envNames user
  /-- The operator's entries that are not overridden, in their order. -/
  kept : merged.filter (fun e => e.name ∉ envNames user) =
    operator.filter (fun e => e.name ∉ envNames user)
  /-- An overridden name has its old places, with the user's entry, and no others. -/
  places : ∀ e ∈ user, e.name ∈ envNames operator → ∀ i : Nat,
    ((operator[i]?).map EnvVar.name = some e.name → merged[i]? = some e) ∧
      ((merged[i]?).map EnvVar.name = some e.name → (operator[i]?).map EnvVar.name = some e.name)
  /-- The operator's names come first, then the user's own entries, in the user's order. -/
  front : envNames (merged.take operator.length) = envNames operator
  others : merged.drop operator.length = user.filter (fun e => e.name ∉ envNames operator)
  once : (envNames (merged.drop operator.length)).Nodup

/-- The user's entries whose names the operator does not have. -/
def userOnly (operator user : List EnvVar) : List EnvVar :=
  user.filter (fun e => e.name ∉ envNames operator)

variable {operator user : List EnvVar}

theorem nodup_userOnly (hnodup : (envNames user).Nodup) :
    (envNames (userOnly operator user)).Nodup :=
  hnodup.sublist (List.filter_sublist.map EnvVar.name)

theorem mergeEnvVars_eq (hnodup : (envNames user).Nodup) : mergeEnvVars operator user =
      override EnvVar.name user operator ++ userOnly operator user := by
  unfold mergeEnvVars
  by_cases h : user = []
  · subst h
    simp [override, last, userOnly]
  · rw [if_neg (by simpa using h)]
    have hothers : user.filter (fun e => !operator.any (fun o => o.name = e.name)) =
        userOnly operator user := by
      refine List.filter_congr (fun e _ => ?_)
      rw [Bool.eq_iff_iff]
      simp
    dsimp only
    rw [hothers]
    -- the user's names are distinct, so none is held back
    exact congrArg _ (foldl_addOnce (nodup_userOnly hnodup))

theorem mem_userOnly {name : String} : name ∈ envNames (userOnly operator user) ↔
      name ∈ envNames user ∧ name ∉ envNames operator := by
  constructor
  · intro h
    obtain ⟨e, he, rfl⟩ := List.mem_map.mp h
    obtain ⟨hmem, hnot⟩ := List.mem_filter.mp he
    exact ⟨List.mem_map_of_mem hmem, by simpa using hnot⟩
  · rintro ⟨hmem, hnot⟩
    obtain ⟨e, he, rfl⟩ := List.mem_map.mp hmem
    exact List.mem_map_of_mem (List.mem_filter.mpr ⟨he, by simpa using hnot⟩)

theorem last_mergeEnvVars (hnodup : (envNames user).Nodup) (name : String) :
    last EnvVar.name (mergeEnvVars operator user) name =
      (last EnvVar.name user name).or (last EnvVar.name operator name) := by
  rw [mergeEnvVars_eq hnodup, last_append]
  by_cases hop : name ∈ envNames operator
  · have hnone : last EnvVar.name (userOnly operator user) name = none :=
      last_eq_none_iff.mpr (fun h => (mem_userOnly.mp h).2 hop)
    rw [hnone, Option.none_or, last_override user operator name hop]
  · have hnone : last EnvVar.name operator name = none := last_eq_none_iff.mpr hop
    rw [last_override_of_not_mem hop, hnone, Option.or_none, Option.or_none]
    -- only entries of other names are left out
    unfold last userOnly
    rw [List.filter_filter]
    congr 1
    refine List.filter_congr (fun e _ => ?_)
    by_cases he : e.name = name
    · simp [he, hop]
    · simp [he]

theorem place_front (hnodup : (envNames user).Nodup) {e : EnvVar} (he : e ∈ user) (i : Nat)
    (hi : i < operator.length) :
    ((operator[i]?).map EnvVar.name = some e.name → (mergeEnvVars operator user)[i]? = some e) ∧
      ((mergeEnvVars operator user)[i]?).map EnvVar.name = (operator[i]?).map EnvVar.name := by
  have hlen : i < (override EnvVar.name user operator).length := by
    rwa [length_override]
  have hget : (mergeEnvVars operator user)[i]? =
      (operator[i]?).map (fun a => (last EnvVar.name user a.name).getD a) := by
    rw [mergeEnvVars_eq hnodup, List.getElem?_append_left hlen]
    exact List.getElem?_map
  rw [hget, List.getElem?_eq_getElem hi]
  refine ⟨fun h => ?_, ?_⟩
  · have hlast : last EnvVar.name user e.name = some e := last_of_mem hnodup he
    rw [Option.map_some, Option.some.inj h, hlast]
    rfl
  · exact congrArg some (key_override _)

theorem place_behind (hnodup : (envNames user).Nodup) {name : String}
    (hop : name ∈ envNames operator) (i : Nat) (hi : operator.length ≤ i) :
    ((mergeEnvVars operator user)[i]?).map EnvVar.name ≠ some name := by
  have hlen : (override EnvVar.name user operator).length ≤ i := by
    rwa [length_override]
  rw [mergeEnvVars_eq hnodup, List.getElem?_append_right hlen]
  intro h
  obtain ⟨o, ho, rfl⟩ := Option.map_eq_some_iff.mp h
  exact (mem_userOnly.mp (List.mem_map_of_mem (List.mem_of_getElem? ho))).2 hop

/-- **User overrides are exact.** For every operator list, in which names may repeat, and every user
list with distinct names. -/
theorem mergeEnvVars_overrides (operator user : List EnvVar) (hnodup : (envNames user).Nodup) :
    Overrides operator user (mergeEnvVars operator user) := by
  have hlen : operator.length = (override EnvVar.name user operator).length :=
    (length_override user operator).symm
  have hdrop : (mergeEnvVars operator user).drop operator.length = userOnly operator user := by
    rw [mergeEnvVars_eq hnodup]
    nth_rewrite 1 [hlen]
    exact List.drop_left
  refine ⟨fun e he => ?_, fun name hname => ?_, fun name => ?_, ?_, fun e he hop i => ?_, ?_, hdrop,
    ?_⟩
  · rw [last_mergeEnvVars hnodup, last_of_mem hnodup he]
    rfl
  · have hnone : last EnvVar.name user name = none := last_eq_none_iff.mpr hname
    rw [last_mergeEnvVars hnodup, hnone]
    rfl
  · have hsplit : envNames (mergeEnvVars operator user) =
        envNames operator ++ envNames (userOnly operator user) := by
      rw [mergeEnvVars_eq hnodup]
      exact List.map_append.trans (congrArg (· ++ _) (map_key_override user operator))
    rw [hsplit, List.mem_append, mem_userOnly]
    by_cases h : name ∈ envNames operator <;> simp [h]
  · have hnil : (userOnly operator user).filter (fun e => e.name ∉ envNames user) = [] := by
      rw [List.filter_eq_nil_iff]
      intro e he
      have hmem : e.name ∈ envNames user := List.mem_map_of_mem (List.mem_of_mem_filter he)
      simpa using hmem
    rw [mergeEnvVars_eq hnodup, List.filter_append, filter_override, hnil, List.append_nil]
  · by_cases hi : i < operator.length
    · obtain ⟨hentry, hname⟩ := place_front hnodup he i hi
      exact ⟨hentry, fun h => hname ▸ h⟩
    · refine ⟨fun h => ?_, fun h => absurd h (place_behind hnodup hop i (Nat.le_of_not_lt hi))⟩
      rw [List.getElem?_eq_none (Nat.le_of_not_lt hi)] at h
      cases h
  · rw [mergeEnvVars_eq hnodup, hlen, List.take_left]
    exact map_key_override user operator
  · rw [hdrop]
    exact nodup_userOnly hnodup

/-- An operator list that names `A` twice, and a user list with one name of it and one of its own. -/
theorem mergeEnvVars_overrides_repeated :
    Overrides [⟨"A", "1", none⟩, ⟨"B", "2", none⟩, ⟨"A", "3", none⟩]
      [⟨"C", "5", none⟩, ⟨"A", "4", none⟩]
      [⟨"A", "4", none⟩, ⟨"B", "2", none⟩, ⟨"A", "4", none⟩, ⟨"C", "5", none⟩] :=
  mergeEnvVars_overrides [⟨"A", "1", none⟩, ⟨"B", "2", none⟩, ⟨"A", "3", none⟩]
    [⟨"C", "5", none⟩, ⟨"A", "4", none⟩] (by decide)

end LitellmOperator
