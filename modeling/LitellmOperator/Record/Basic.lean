import Mathlib.Data.List.Basic
import Mathlib.Data.List.Induction
import Mathlib.Data.List.Nodup
import Mathlib.Data.List.TakeWhile
import Mathlib.Data.Option.Basic
import Mathlib.Logic.Function.Basic

/-! # Bringing a set of pairs to a declared one

A set of pairs, each of a key and a value, changes by adding a pair and by dropping all pairs of
some keys. Whoever wants it to become a declared set may list it, add what is declared under keys
that are not listed, and drop the keys that are listed and not declared. That goes by keys alone: a
pair whose key is declared with another value stays. So the declared set is reached exactly if there
is no such pair (`reached_iff`).
-/

set_option autoImplicit false

namespace Record

section

variable {K V : Type}

inductive Change (K V : Type) where
  | add (p : K × V)
  | drop (gone : K → Bool)

variable (pairs : List (K × V))

def Change.apply : Change K V → List (K × V)
  | .add p => p :: pairs
  | .drop gone => pairs.filter (fun p => !gone p.1)

/-- The pairs after some changes, of which the newest comes first. -/
def changed (changes : List (Change K V)) : List (K × V) :=
  changes.foldr (fun c pairs => c.apply pairs) pairs

theorem changed_append (cs cs' : List (Change K V)) :
    changed pairs (cs ++ cs') = changed (changed pairs cs') cs := List.foldr_append

variable {p : K × V}

theorem mem_changed_adds {pairs ps : List (K × V)} :
    p ∈ changed pairs (ps.map .add) ↔ p ∈ ps ∨ p ∈ pairs := by
  induction ps with
  | nil => simp [changed]
  | cons q ps ih =>
    have hcons : changed pairs ((q :: ps).map .add) = q :: changed pairs (ps.map .add) := rfl
    rw [hcons, List.mem_cons, List.mem_cons, ih, or_assoc]

theorem mem_changed_drops {pairs : List (K × V)} {gs : List (K → Bool)} :
    p ∈ changed pairs (gs.map .drop) ↔ p ∈ pairs ∧ ∀ g ∈ gs, g p.1 = false := by
  induction gs with
  | nil => simp [changed]
  | cons g gs ih =>
    have hcons : changed pairs ((g :: gs).map .drop) =
        (changed pairs (gs.map .drop)).filter (fun p => !g p.1) := rfl
    rw [hcons, List.mem_filter, ih, List.forall_mem_cons, Bool.not_eq_true']
    constructor
    · rintro ⟨⟨hp, hgs⟩, hg⟩
      exact ⟨hp, hg, hgs⟩
    · rintro ⟨hp, hg, hgs⟩
      exact ⟨⟨hp, hgs⟩, hg⟩

/-- What the declared pairs are reached by: those whose keys were missing come in, those whose keys
are declared stay. -/
def Reached (before declared : List (K × V)) (p : K × V) : Prop :=
  (p ∈ before ∧ p.1 ∈ declared.map Prod.fst) ∨ (p ∈ declared ∧ p.1 ∉ before.map Prod.fst)

/-- The declared pairs are reached exactly if no key had another value before. -/
theorem reached_iff {before declared : List (K × V)} (h : (declared.map Prod.fst).Nodup) :
    (∀ p, Reached before declared p ↔ p ∈ declared) ↔
      ∀ p ∈ before, ∀ q ∈ declared, p.1 = q.1 → p = q := by
  constructor
  · intro hall p hp q hq hkey
    have hdeclared : p ∈ declared := (hall p).mp (.inl ⟨hp, hkey ▸ List.mem_map_of_mem hq⟩)
    exact List.inj_on_of_nodup_map h hdeclared hq hkey
  · intro hagree p
    constructor
    · rintro (⟨hp, hkey⟩ | ⟨hp, -⟩)
      · obtain ⟨q, hq, hkey⟩ := List.mem_map.mp hkey
        rw [hagree p hp q hq hkey.symm]
        exact hq
      · exact hp
    · intro hp
      by_cases hkey : p.1 ∈ before.map Prod.fst
      · obtain ⟨q, hq, hkey⟩ := List.mem_map.mp hkey
        rw [hagree q hq p hp hkey] at hq
        exact .inl ⟨hq, List.mem_map_of_mem hp⟩
      · exact .inr ⟨hp, hkey⟩

variable {X D : Type} [DecidableEq K]

variable (pair : X → K × V)

variable (decl : D → K × V)

/-- The requests that add what is declared and not listed, newest first. -/
def additions (listing : List X) (declared : List D) : List (Change K V) :=
  (declared.filter (fun d => !(listing.map (fun x => (pair x).1)).contains (decl d).1)).reverse.map
    (fun d => .add (decl d))

/-- The requests that drop what is listed and not declared, newest first. -/
def removals (gone : X → K → Bool) (listing : List X) (declared : List D) : List (Change K V) :=
  (listing.filter (fun x => !(declared.map (fun d => (decl d).1)).contains (pair x).1)).reverse.map
    (fun x => .drop (gone x))

variable {declared : List D} {listing : List X}

theorem mem_changed_additions {pair : X → K × V} {decl : D → K × V} {pairs : List (K × V)} :
    p ∈ changed pairs (additions pair decl listing declared) ↔
      (p ∈ declared.map decl ∧ p.1 ∉ (listing.map pair).map Prod.fst) ∨ p ∈ pairs := by
  have hmap : additions pair decl listing declared = ((declared.filter (fun d =>
      !(listing.map (fun x => (pair x).1)).contains (decl d).1)).reverse.map decl).map .add := by
    rw [List.map_map]
    rfl
  rw [hmap, mem_changed_adds]
  refine or_congr_left ?_
  rw [List.mem_map, List.mem_map, List.map_map]
  constructor
  · rintro ⟨d, hd, rfl⟩
    obtain ⟨hd, hnew⟩ := List.mem_filter.mp (List.mem_reverse.mp hd)
    exact ⟨⟨d, hd, rfl⟩, by simpa using hnew⟩
  · rintro ⟨⟨d, hd, rfl⟩, hnew⟩
    exact ⟨d, List.mem_reverse.mpr (List.mem_filter.mpr ⟨hd, by simpa using hnew⟩), rfl⟩

theorem mem_changed_removals {pair : X → K × V} {decl : D → K × V} {gone : X → K → Bool}
    {pairs : List (K × V)} (hgone : ∀ x ∈ listing, ∀ k, gone x k = true ↔ k = (pair x).1) :
    p ∈ changed pairs (removals pair decl gone listing declared) ↔
      p ∈ pairs ∧ (p.1 ∈ (listing.map pair).map Prod.fst → p.1 ∈ (declared.map decl).map Prod.fst) := by
  have hmap : removals pair decl gone listing declared = ((listing.filter (fun x =>
      !(declared.map (fun d => (decl d).1)).contains (pair x).1)).reverse.map gone).map .drop := by
    rw [List.map_map]
    rfl
  rw [hmap, mem_changed_drops, List.map_map, List.map_map]
  refine and_congr_right (fun _ => ?_)
  constructor
  · intro hall hlisted
    by_contra hnot
    obtain ⟨x, hx, hkey⟩ := List.mem_map.mp hlisted
    have hundeclared : (pair x).1 ∉ declared.map (fun d => (decl d).1) := by
      rw [show (pair x).1 = p.1 from hkey]
      exact hnot
    have hkept := hall (gone x) (List.mem_map.mpr ⟨x, List.mem_reverse.mpr
      (List.mem_filter.mpr ⟨hx, by simpa using hundeclared⟩), rfl⟩)
    rw [(hgone x hx p.1).mpr hkey.symm] at hkept
    cases hkept
  · intro hdeclared g hg
    obtain ⟨x, hx, rfl⟩ := List.mem_map.mp hg
    obtain ⟨hx, hnot⟩ := List.mem_filter.mp (List.mem_reverse.mp hx)
    by_contra htrue
    have hkey : p.1 = (pair x).1 := (hgone x hx p.1).mp (by simpa using htrue)
    have hin := hdeclared (List.mem_map.mpr ⟨x, hx, hkey.symm⟩)
    rw [hkey] at hin
    rw [Bool.not_eq_true', List.contains_eq_mem, decide_eq_false_iff_not] at hnot
    exact hnot hin

/-- **Adding what is missing and dropping what is not declared.** The listing has the pairs that
were there, in any order, and dropping goes by the key. -/
theorem mem_changed_diff (gone : X → K → Bool) {before : List (K × V)}
    (hlist : ∀ p, p ∈ listing.map pair ↔ p ∈ before)
    (hgone : ∀ x ∈ listing, ∀ k, gone x k = true ↔ k = (pair x).1) (p : K × V) :
    p ∈ changed (changed before (additions pair decl listing declared))
        (removals pair decl gone listing declared) ↔
      Reached before (declared.map decl) p := by
  have hkeys : p.1 ∈ (listing.map pair).map Prod.fst ↔ p.1 ∈ before.map Prod.fst := by
    rw [List.mem_map, List.mem_map]
    exact exists_congr (fun q => and_congr_left' (hlist q))
  rw [mem_changed_removals hgone, mem_changed_additions, hkeys]
  constructor
  · rintro ⟨⟨hp, hnew⟩ | hp, hkept⟩
    · exact .inr ⟨hp, hnew⟩
    · exact .inl ⟨hp, hkept (List.mem_map_of_mem hp)⟩
  · rintro (⟨hp, hkey⟩ | ⟨hp, hnew⟩)
    · exact ⟨.inr hp, fun _ => hkey⟩
    · exact ⟨.inl ⟨hp, hnew⟩, fun _ => List.mem_map_of_mem hp⟩

end

/-! ## Stores that are written in layers

Writers run one after the other over a store of slots. A writer that adds (`Adds`) leaves in each
slot what it writes into an empty store, and where it writes nothing, what was there. After a list
of them a slot holds what the last writer of this slot wrote (`look_foldl`). If values have parts,
one reads from the last writer of a slot what one reads from the last writer of the part, provided
that each writer covers the parts of those before it (`lastOf_map_bind`).
-/

/-! ## The last of a list of optional values -/

section LastOf

variable {A B : Type}

variable (xs : List (Option A))

/-- The last value of a list of optional ones. -/
def lastOf : Option A := xs.foldl (fun acc x => x.or acc) none

@[simp] theorem lastOf_nil : lastOf ([] : List (Option A)) = none := rfl

@[simp] theorem lastOf_concat (x : Option A) : lastOf (xs ++ [x]) = x.or (lastOf xs) := by
  simp [lastOf, List.foldl_append]

theorem foldl_or (acc : Option A) : xs.foldl (fun acc x => x.or acc) acc = (lastOf xs).or acc := by
  induction xs using List.reverseRecOn with
  | nil => rw [List.foldl_nil, lastOf_nil, Option.none_or]
  | append_singleton xs x ih =>
    rw [List.foldl_append, ih, lastOf_concat, Option.or_assoc]
    rfl

theorem lastOf_cons (x : Option A) (xs : List (Option A)) :
    lastOf (x :: xs) = (lastOf xs).or x := by
  have h : lastOf (x :: xs) = xs.foldl (fun acc x => x.or acc) (x.or none) := rfl
  rw [h, foldl_or, Option.or_none]

theorem lastOf_eq_none_iff {xs : List (Option A)} : lastOf xs = none ↔ ∀ x ∈ xs, x = none := by
  induction xs with
  | nil => simp
  | cons x xs ih =>
    rw [lastOf_cons, Option.or_eq_none_iff, ih, List.forall_mem_cons]
    exact and_comm

/-- The last value is that of some writer after which no other has one. -/
theorem exists_last {f : B → Option A} {bs : List B} {v : A} (h : lastOf (bs.map f) = some v) :
    ∃ before b after, bs = before ++ b :: after ∧ f b = some v ∧ ∀ b' ∈ after, f b' = none := by
  induction bs with
  | nil => cases h
  | cons b bs ih =>
    rw [List.map_cons, lastOf_cons] at h
    cases hrest : lastOf (bs.map f) with
    | some w =>
      -- a later writer has a value, so the first one does not count
      rw [hrest] at h
      obtain ⟨before, last, after, rfl, hlast, hafter⟩ := ih (hrest.trans h)
      exact ⟨b :: before, last, after, rfl, hlast, hafter⟩
    | none =>
      rw [hrest, Option.none_or] at h
      have hnone := lastOf_eq_none_iff.mp hrest
      exact ⟨[], b, bs, rfl, h, fun b' hb' => hnone _ (List.mem_map_of_mem hb')⟩

/-- `y` has every part that `x` has, if both are there. The parts are read by `f`. -/
def Covers {P : Type} (f : P → A → Option B) (x y : Option A) : Prop :=
  ∀ v ∈ x, ∀ w ∈ y, ∀ p, (f p v).isSome → (f p w).isSome

variable {P : Type} {f : P → A → Option B}

theorem covers_none_left (y : Option A) : Covers f none y := by
  intro v hv
  cases hv

theorem covers_none_right (x : Option A) : Covers f x none := by
  intro v _ w hw
  cases hw

/-- If each value covers those before it, then a part of the last value is the last of the parts. -/
theorem lastOf_map_bind {xs : List (Option A)} (h : xs.Pairwise (Covers f)) (p : P) :
    lastOf (xs.map (·.bind (f p))) = (lastOf xs).bind (f p) := by
  induction xs using List.reverseRecOn with
  | nil => rfl
  | append_singleton xs y ih =>
    obtain ⟨hxs, -, hlast⟩ := List.pairwise_append.mp h
    rw [List.map_append, List.map_singleton, lastOf_concat, lastOf_concat, ih hxs]
    rcases y with _ | w
    · simp
    simp only [Option.bind_some, Option.some_or]
    cases hw : f p w with
    | some b => simp
    | none =>
      -- the last value lacks the part, so none of those before has it either
      have hnone : lastOf (xs.map (·.bind (f p))) = none := by
        refine lastOf_eq_none_iff.mpr (fun z hz => ?_)
        obtain ⟨x, hx, rfl⟩ := List.mem_map.mp hz
        rcases x with _ | v
        · rfl
        have hcover := hlast _ hx _ (List.mem_singleton.mpr rfl) v rfl w rfl p
        by_contra hne
        rw [hw] at hcover
        exact absurd (hcover (Option.isSome_iff_ne_none.mpr hne)) (by simp)
      rw [Option.none_or, ← ih hxs, hnone]

end LastOf

/-! ## Writers -/

section Writers

variable {C S V : Type} (look : C → S → Option V) (empty : C)

/-- On the store `c` the writer adds what it writes into an empty store. -/
def Adds (write : C → C) (c : C) : Prop :=
  ∀ s, look (write c) s = (look (write empty) s).or (look c s)

/-- The writers add, each to the store that those before it leave. -/
def AddAll : List (C → C) → C → Prop
  | [], _ => True
  | write :: ws, c => Adds look empty write c ∧ AddAll ws (write c)

variable {look empty}

/-- After a list of writers a slot holds what its last writer wrote. -/
theorem look_foldl {ws : List (C → C)} {c : C} (h : AddAll look empty ws c) (s : S) :
    look (ws.foldl (fun c write => write c) c) s =
      (lastOf (ws.map (fun write => look (write empty) s))).or (look c s) := by
  induction ws generalizing c with
  | nil => rw [List.map_nil, lastOf_nil, Option.none_or, List.foldl_nil]
  | cons write ws ih =>
    rw [List.foldl_cons, ih h.2, h.1 s, List.map_cons, lastOf_cons, Option.or_assoc]

end Writers

/-! ## Records that are updated in part

A record gives each field a value, one of which stands for an absent field. `overlay` is an update
that cannot clear a field: what the newer record leaves absent keeps its older value. `settled` is
what a sequence of such updates amounts to when the record starts afresh whenever some mode
changes. It is the last record written exactly if no field that this record leaves absent was
written since the mode last changed (`settled_eq_last_iff`).
-/

section

variable {F V M : Type} [DecidableEq V]

/-- The fields of `new`, and those of `old` where `new` has none. -/
def overlay (absent : V) (old new : F → V) : F → V :=
  fun f => if new f = absent then old f else new f

variable {absent : V}

variable {old new : F → V}

theorem overlay_of_absent {f : F} (h : new f = absent) :
    overlay absent old new f = old f := if_pos h

theorem overlay_of_ne {f : F} (h : new f ≠ absent) : overlay absent old new f = new f := if_neg h

theorem overlay_again (old new : F → V) :
    overlay absent (overlay absent old new) new = overlay absent old new := by
  funext f
  by_cases h : new f = absent
  · rw [overlay_of_absent h]
  · rw [overlay_of_ne h, overlay_of_ne h]

theorem overlay_eq_absent_iff {f : F} :
    overlay absent old new f = absent ↔ new f = absent ∧ old f = absent := by
  by_cases h : new f = absent
  · rw [overlay_of_absent h]
    exact (and_iff_right h).symm
  · rw [overlay_of_ne h]
    exact ⟨fun h' => absurd h' h, fun h' => absurd h'.1 h⟩

/-- An update that leaves out one field of the record it is made for, or none, gives this field
the value it should have if it was left out with that value. -/
theorem overlay_eq_iff {old new target : F → V} {f : F} {omitted : Bool}
    (hnew : new f = if omitted then absent else target f)
    (hcover : old f ≠ absent → target f ≠ absent) :
    overlay absent old new f = target f ↔ (omitted = true → old f = target f) := by
  cases omitted with
  | true =>
    have hnone : new f = absent := hnew
    rw [overlay_of_absent hnone]
    exact ⟨fun h _ => h, fun h => h rfl⟩
  | false =>
    refine ⟨fun _ h => (by cases h), fun _ => ?_⟩
    have hsame : new f = target f := hnew
    by_cases h : new f = absent
    · rw [overlay_of_absent h]
      by_contra hne
      have hold : old f ≠ absent := fun ho => hne (ho.trans (h.symm.trans hsame))
      exact hcover hold (hsame.symm.trans h)
    · rw [overlay_of_ne h, hsame]

/-! ## A sequence of updates -/

variable [DecidableEq M]

/-- The record after writing the given ones, newest first, each with its mode. -/
def settled (absent : V) : List (M × (F → V)) → F → V
  | [] => fun _ => absent
  | (m, x) :: older =>
    if older.head?.map Prod.fst = some m then overlay absent (settled absent older) x else x

theorem settled_of_ne {m : M} {x : F → V} {older : List (M × (F → V))}
    (h : older.head?.map Prod.fst ≠ some m) : settled absent ((m, x) :: older) = x := if_neg h

theorem settled_of_same {m : M} {x : F → V} {older : List (M × (F → V))}
    (h : older.head?.map Prod.fst = some m) :
    settled absent ((m, x) :: older) = overlay absent (settled absent older) x := if_pos h

theorem settled_repeat (m : M) (x : F → V) (older : List (M × (F → V))) :
    settled absent ((m, x) :: (m, x) :: older) = settled absent ((m, x) :: older) := by
  rw [settled_of_same rfl]
  by_cases h : older.head?.map Prod.fst = some m
  · rw [settled_of_same h]
    exact overlay_again _ _
  · rw [settled_of_ne h]
    funext f
    by_cases hf : x f = absent
    · exact overlay_of_absent hf
    · exact overlay_of_ne hf

/-- A field is absent if no record since the mode last changed has it. -/
theorem settled_eq_absent_iff (m : M) (x : F → V) (older : List (M × (F → V))) (f : F) :
    settled absent ((m, x) :: older) f = absent ↔
      x f = absent ∧ ∀ y ∈ older.takeWhile (fun y => y.1 = m), y.2 f = absent := by
  -- along the records, from the newest; those before a change of the mode do not count
  induction older generalizing x with
  | nil =>
    rw [settled_of_ne (by simp)]
    simp
  | cons y older ih =>
    obtain ⟨m', y⟩ := y
    by_cases hm : m' = m
    · subst hm
      rw [settled_of_same rfl, overlay_eq_absent_iff, ih]
      simp
    · have hhead : ((m', y) :: older).head?.map Prod.fst ≠ some m := by simpa using hm
      rw [settled_of_ne hhead, List.takeWhile_cons_of_neg (by simpa using hm)]
      simp

/-- **When nothing is left over.** The record is the last one written exactly if every field that
the last one leaves absent was left absent since the mode last changed. -/
theorem settled_eq_last_iff (m : M) (x : F → V) (older : List (M × (F → V))) :
    settled absent ((m, x) :: older) = x ↔
      ∀ f, x f = absent → ∀ y ∈ older.takeWhile (fun y => y.1 = m), y.2 f = absent := by
  constructor
  · intro h f hf
    have habs : settled absent ((m, x) :: older) f = absent := by rw [h, hf]
    exact ((settled_eq_absent_iff m x older f).mp habs).2
  · intro h
    funext f
    by_cases hf : x f = absent
    · rw [hf]
      exact (settled_eq_absent_iff m x older f).mpr ⟨hf, h f hf⟩
    · by_cases hhead : older.head?.map Prod.fst = some m
      · rw [settled_of_same hhead, overlay_of_ne hf]
      · rw [settled_of_ne hhead]

end

/-! ## Writes that add to a partial map, and writes that clear it

Someone who can only add entries to a map, or clear it as a whole, leaves in it what was added since
it was last cleared. The map is the one that was written last exactly if nothing else was
(`swept_eq_target_iff`, `swept_eq_none_iff`).
-/

variable {N V : Type}

/-- A write over a partial map. -/
inductive Sweep (N V : Type) where
  | clear
  | put (m : N → Option V)

namespace Sweep

def isPut : Sweep N V → Bool
  | .clear => false
  | .put _ => true

/-- What the write is meant to establish. -/
def target : Sweep N V → N → Option V
  | .clear => fun _ => none
  | .put m => m

/-- What it does: entries are added, and replace others of the same name. -/
def apply : Sweep N V → (N → Option V) → N → Option V
  | .clear, _ => fun _ => none
  | .put m, old => fun n => (m n).or (old n)

end Sweep

variable (start : N → Option V)

/-- The map after some writes, of which the newest comes first. -/
def swept (ws : List (Sweep N V)) : N → Option V := ws.foldr Sweep.apply start

/-- The last write establishes what it is meant to exactly if it clears the map, or the names that
it leaves out had no entry. -/
theorem swept_eq_target_iff (w : Sweep N V) (ws : List (Sweep N V)) :
    swept start (w :: ws) = w.target ↔
      (w.isPut = true → ∀ n, w.target n = none → swept start ws n = none) := by
  cases w with
  | clear => exact ⟨fun _ h => (by cases h), fun _ => rfl⟩
  | put m =>
    have hcons : swept start (.put m :: ws) = fun n => (m n).or (swept start ws n) := rfl
    rw [hcons]
    constructor
    · intro h _ n hn
      have hat := congrFun h n
      have hm : m n = none := hn
      simpa [Sweep.target, hm] using hat
    · intro h
      funext n
      show (m n).or (swept start ws n) = m n
      cases hm : m n with
      | some v => rfl
      | none => exact h rfl n hm

theorem swept_eq_none_iff (ws : List (Sweep N V)) (n : N) :
    swept start ws n = none ↔ (∀ w ∈ ws.takeWhile Sweep.isPut, w.target n = none) ∧
        (ws.all Sweep.isPut = true → start n = none) := by
  induction ws with
  | nil => simp [swept]
  | cons w ws ih =>
    cases w with
    | clear =>
      refine iff_of_true rfl ⟨?_, fun h => ?_⟩
      · rw [List.takeWhile_cons_of_neg (by simp [Sweep.isPut])]
        simp
      · simp [Sweep.isPut] at h
    | put m =>
      have hcons : swept start (.put m :: ws) n = (m n).or (swept start ws n) := rfl
      rw [hcons, Option.or_eq_none_iff, ih, List.takeWhile_cons_of_pos rfl, List.forall_mem_cons,
        List.all_cons, and_assoc]
      exact Iff.rfl

end Record
