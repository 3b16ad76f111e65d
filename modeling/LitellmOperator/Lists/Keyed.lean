import Mathlib.Data.List.Nodup

/-! # Lists whose entries have keys

A list in which a key may occur more than once, read so that its last entry counts (`last`), and
two ways to put such lists together: one list over another (`override`), and one entry after the
other as long as the key is new (`addOnce`).
-/

set_option autoImplicit false

namespace Keyed

variable {α κ : Type} [DecidableEq κ] (key : α → κ)

/-- The last entry under a key. -/
def last (l : List α) (k : κ) : Option α := (l.filter (fun a => key a = k)).getLast?

/-- The entries of `l`, with the last entry of `upper` in place of each of its key. -/
def override (upper l : List α) : List α := l.map (fun a => (last key upper (key a)).getD a)

/-- Appends an entry unless there is one under its key. -/
def addOnce (l : List α) (a : α) : List α :=
  if l.any (fun b => key b = key a) then l else l ++ [a]

variable {key}

/-! ## The last entry -/

theorem last_eq_none_iff {l : List α} {k : κ} : last key l k = none ↔ k ∉ l.map key := by
  unfold last
  rw [List.getLast?_eq_none_iff, List.filter_eq_nil_iff]
  simp

theorem key_of_last {l : List α} {k : κ} {a : α} (h : last key l k = some a) :
    a ∈ l ∧ key a = k := by
  have hmem := List.mem_of_getLast? h
  rw [List.mem_filter] at hmem
  exact ⟨hmem.1, by simpa using hmem.2⟩

theorem last_append (l l' : List α) (k : κ) :
    last key (l ++ l') k = (last key l' k).or (last key l k) := by
  unfold last
  rw [List.filter_append, List.getLast?_append]

/-- Where no key occurs twice, every entry is the last under its key. -/
theorem last_of_mem {l : List α} (hnodup : (l.map key).Nodup) {a : α} (ha : a ∈ l) :
    last key l (key a) = some a := by
  have hsome : last key l (key a) ≠ none := by
    rw [Ne, last_eq_none_iff, not_not]
    exact List.mem_map_of_mem ha
  obtain ⟨b, hb⟩ := Option.ne_none_iff_exists'.mp hsome
  obtain ⟨hmem, hkey⟩ := key_of_last hb
  rw [hb, List.inj_on_of_nodup_map hnodup hmem ha hkey]

theorem last_map {f : α → α} (hf : ∀ a, key (f a) = key a) (l : List α) (k : κ) :
    last key (l.map f) k = (last key l k).map f := by
  unfold last
  rw [List.filter_map, List.getLast?_map]
  congr 3
  funext a
  simp [hf]

/-! ## One list over another -/

theorem key_override {upper : List α} (a : α) : key ((last key upper (key a)).getD a) = key a := by
  cases h : last key upper (key a) with
  | none => rfl
  | some b => exact (key_of_last h).2

variable (upper l : List α)

theorem map_key_override : (override key upper l).map key = l.map key := by
  unfold override
  rw [List.map_map]
  refine List.map_congr_left (fun a _ => ?_)
  exact key_override a

theorem length_override : (override key upper l).length = l.length :=
  List.length_map _

theorem last_override (k : κ) (hk : k ∈ l.map key) :
    last key (override key upper l) k = (last key upper k).or (last key l k) := by
  unfold override
  rw [last_map key_override]
  rcases h : last key l k with _ | a
  · exact absurd hk (last_eq_none_iff.mp h)
  obtain ⟨-, rfl⟩ := key_of_last h
  rw [Option.map_some]
  cases last key upper (key a) with
  | none | some b => rfl

theorem last_override_of_not_mem {upper l : List α} {k : κ} (hk : k ∉ l.map key) :
    last key (override key upper l) k = none := by
  rw [last_eq_none_iff, map_key_override]
  exact hk

theorem filter_override :
    (override key upper l).filter (fun a => key a ∉ upper.map key) =
      l.filter (fun a => key a ∉ upper.map key) := by
  induction l with
  | nil => rfl
  | cons a l ih =>
    have hkey : key ((last key upper (key a)).getD a) = key a := key_override a
    unfold override at ih ⊢
    rw [List.map_cons, List.filter_cons, List.filter_cons, ih, hkey]
    by_cases h : key a ∈ upper.map key
    · simp [h]
    · have hnone : last key upper (key a) = none := last_eq_none_iff.mpr h
      rw [hnone]
      rfl

/-! ## One entry after the other -/

theorem addOnce_of_not_mem {l : List α} {a : α} (h : key a ∉ l.map key) :
    addOnce key l a = l ++ [a] := by
  unfold addOnce
  rw [if_neg]
  intro hany
  obtain ⟨b, hb, heq⟩ := List.any_eq_true.mp hany
  exact h (List.mem_map.mpr ⟨b, hb, by simpa using heq⟩)

theorem foldl_addOnce {l acc : List α} (h : ((acc ++ l).map key).Nodup) :
    l.foldl (addOnce key) acc = acc ++ l := by
  induction l generalizing acc with
  | nil => exact (List.append_nil acc).symm
  | cons a l ih =>
    have hnew : key a ∉ acc.map key := by
      rw [List.map_append, List.map_cons] at h
      exact fun hmem => List.disjoint_of_nodup_append h hmem List.mem_cons_self
    rw [List.foldl_cons, addOnce_of_not_mem hnew, ih, List.append_assoc]
    · rfl
    · rwa [List.append_assoc]

end Keyed
