import LitellmOperator.Go.Basic
import Mathlib.Data.List.TakeWhile

/-! # Text that is appended to a URL as it is

`parse` is `url.Parse` behind the host, and `formValue` reads a parameter of a query the way forms
are decoded. Text that comes first in the query, or last in the path, is read back unchanged exactly
if no byte of it has a meaning there (`readBack_eq_iff`).
-/

set_option autoImplicit false

namespace Go.Url

/-! ## Escapes -/

def hexValue (b : UInt8) : Option UInt8 :=
  if 48 ≤ b ∧ b ≤ 57 then some (b - 48)
  else if 65 ≤ b ∧ b ≤ 70 then some (b - 55)
  else if 97 ≤ b ∧ b ≤ 102 then some (b - 87)
  else none

/-- The byte that `%` and two digits stand for. -/
def escaped (a x y : UInt8) : Option UInt8 :=
  if a = '%'.toUInt8 then (hexValue x).bind (fun h => (hexValue y).map (fun l => 16 * h + l))
  else none

/-- Replaces the escapes. A `%` without two digits behind it is an error, or is left as it is. -/
def decode (strict : Bool) : Bytes → Option Bytes
  | a :: x :: y :: rest =>
    match escaped a x y with
    | some b => (decode strict rest).map (b :: ·)
    | none =>
      if strict && a = '%'.toUInt8 then none else (decode strict (x :: y :: rest)).map (a :: ·)
  | s => if strict && '%'.toUInt8 ∈ s then none else some s

/-- There is nothing to decode. -/
def isRaw (strict : Bool) : Bytes → Bool
  | a :: x :: y :: rest =>
    (escaped a x y).isNone && !(strict && a = '%'.toUInt8) && isRaw strict (x :: y :: rest)
  | s => !(strict && '%'.toUInt8 ∈ s)

variable {strict : Bool} {s t v : Bytes}

theorem decode_of_isRaw (h : isRaw strict s = true) : decode strict s = some s := by
  induction s using decode.induct strict with
  | case1 a x y rest b hb ih => simp [isRaw, hb] at h
  | case2 a x y rest hnone hbad => simp [isRaw, hbad] at h
  | case3 a x y rest hnone hbad ih =>
    simp only [isRaw, Bool.and_eq_true] at h
    rw [decode, hnone]
    dsimp only
    rw [if_neg hbad, ih h.2]
    rfl
  | case4 s hs hbad => simp [isRaw.eq_2 strict s hs, hbad] at h
  | case5 s hs hbad => rw [decode.eq_2 strict s hs, if_neg hbad]

/-- What was decoded is shorter, unless there was nothing to decode. -/
theorem length_of_decode (h : decode strict s = some t) :
    t.length ≤ s.length ∧ (t.length = s.length → isRaw strict s = true) := by
  induction s using decode.induct strict generalizing t with
  | case1 a x y rest b hb ih =>
    rw [decode, hb] at h
    obtain ⟨t, ht, rfl⟩ := Option.map_eq_some_iff.mp h
    have hle := (ih ht).1
    simp only [List.length_cons]
    omega
  | case2 a x y rest hnone hbad =>
    rw [decode, hnone] at h
    simp [hbad] at h
  | case3 a x y rest hnone hbad ih =>
    rw [decode, hnone] at h
    dsimp only at h
    rw [if_neg hbad] at h
    obtain ⟨t, ht, rfl⟩ := Option.map_eq_some_iff.mp h
    refine ⟨Nat.succ_le_succ (ih ht).1, fun hlen => ?_⟩
    rw [isRaw, (ih ht).2 (Nat.succ.inj hlen), hnone, Bool.eq_false_iff.mpr hbad]
    rfl
  | case4 s hs hbad =>
    rw [decode.eq_2 strict s hs, if_pos hbad] at h
    cases h
  | case5 s hs hbad =>
    rw [decode.eq_2 strict s hs, if_neg hbad] at h
    cases h
    refine ⟨Nat.le_refl _, fun _ => ?_⟩
    rw [isRaw.eq_2 strict s hs, Bool.eq_false_iff.mpr hbad]
    rfl

theorem decode_append (h : '%'.toUInt8 ∉ s) :
    decode strict (s ++ t) = (decode strict t).map (s ++ ·) := by
  induction s with
  | nil => simp
  | cons a s ih =>
    obtain ⟨ha, hs⟩ := not_or.mp (fun hmem => h (List.mem_cons.mpr hmem))
    have hcons : ∀ r, decode strict (a :: r) = (decode strict r).map (a :: ·) := by
      intro r
      match r with
      | [] => simp [decode, ha]
      | [x] => by_cases hx : '%'.toUInt8 = x <;> cases strict <;> simp [decode, ha, hx]
      | x :: y :: r => simp [decode, escaped, Ne.symm ha]
    rw [List.cons_append, hcons, ih hs, Option.map_map]
    rfl

/-! ## Parts -/

/-- `strings.Cut`: what is before the first `sep`, and what is after it. -/
def cut (sep : UInt8) (s : Bytes) : Bytes × Bytes :=
  (s.takeWhile (· ≠ sep), (s.dropWhile (· ≠ sep)).tail)

variable {sep : UInt8}

theorem cut_append (h : sep ∉ s) : cut sep (s ++ t) = (s ++ (cut sep t).1, (cut sep t).2) := by
  have hs : ∀ b ∈ s, decide (b ≠ sep) = true := fun b hb => decide_eq_true (fun hb' => h (hb' ▸ hb))
  unfold cut
  rw [List.takeWhile_append_of_pos hs, List.dropWhile_append_of_pos hs]

theorem cut_of_not_mem (h : sep ∉ s) : cut sep s = (s, []) := by
  have hcut := cut_append (t := []) h
  rw [List.append_nil] at hcut
  exact hcut.trans (by simp [cut])

theorem cut_at (h : sep ∉ s) : cut sep (s ++ sep :: t) = (s, t) := by
  rw [cut_append h]
  simp [cut]

theorem not_mem_of_length_cut (h : s.length ≤ (cut sep s).1.length) : sep ∉ s := by
  have hall := (List.takeWhile_prefix _).eq_of_length_le h
  exact fun hmem => of_decide_eq_true (List.takeWhile_eq_self_iff.mp hall sep hmem) rfl

/-- `stringContainsCTLByte` looks for these. -/
def isControl (b : UInt8) : Bool := b < 32 || b = 127

/-- The path, decoded, and the query. -/
def parse (s : Bytes) : Option (Bytes × Bytes) :=
  let u := cut '#'.toUInt8 s
  let p := cut '?'.toUInt8 u.1
  if u.1.any isControl || (decode true u.2).isNone then none else (decode true p.1).map (·, p.2)

def plusToSpace (b : UInt8) : UInt8 := if b = '+'.toUInt8 then ' '.toUInt8 else b

def formDecode (s : Bytes) : Option Bytes := decode false (s.map plusToSpace)

/-- The first parameter of a query, if it has this name. -/
def formValue (name query : Bytes) : Option Bytes :=
  let p := cut '='.toUInt8 (cut '&'.toUInt8 query).1
  if formDecode p.1 = some name then formDecode p.2 else none

theorem map_plusToSpace : s.map plusToSpace = s ↔ '+'.toUInt8 ∉ s := by
  induction s with
  | nil => simp
  | cons b s ih =>
    rw [List.map_cons, List.cons.injEq, ih, List.mem_cons, not_or]
    refine and_congr_left' ⟨fun h hb => ?_, fun h => if_neg (Ne.symm h)⟩
    rw [plusToSpace, if_pos hb.symm, ← hb] at h
    exact absurd h (by decide)

/-- What comes after `stem` in a path, if it is one segment. -/
def segment (stem path : Bytes) : Option Bytes :=
  if stem <+: path ∧ '/'.toUInt8 ∉ path.drop stem.length then some (path.drop stem.length) else none

/-! ## Text that is read back -/

/-- What is read of text at the end of a URL, where `sep` ends it and `f` is part of decoding. -/
def readBack (sep : UInt8) (strict : Bool) (f : UInt8 → UInt8) (v : Bytes) : Option Bytes :=
  let u := cut '#'.toUInt8 v
  if u.1.any isControl || (decode true u.2).isNone then none
  else decode strict ((cut sep u.1).1.map f)

/-- **Text is read back unchanged** exactly if nothing ends it, is refused or is decoded. -/
theorem readBack_eq_iff {f : UInt8 → UInt8} : readBack sep strict f v = some v ↔
    ('#'.toUInt8 ∉ v ∧ sep ∉ v ∧ v.any isControl = false) ∧ v.map f = v ∧ isRaw strict v = true := by
  unfold readBack
  dsimp only
  constructor
  · intro h
    split at h
    · cases h
    · rename_i hok
      have hlen := (length_of_decode h).1
      rw [List.length_map] at hlen
      -- each cut leaves the whole text, or the result were shorter
      have hhash : '#'.toUInt8 ∉ v :=
        not_mem_of_length_cut (hlen.trans (List.takeWhile_prefix _).length_le)
      rw [cut_of_not_mem hhash] at h hok hlen
      have hsep := not_mem_of_length_cut hlen
      rw [cut_of_not_mem hsep] at h
      have hraw := (length_of_decode h).2 (List.length_map _).symm
      have hmap := Option.some.inj ((decode_of_isRaw hraw).symm.trans h)
      rw [hmap] at hraw
      simp only [Bool.or_eq_true, not_or] at hok
      exact ⟨⟨hhash, hsep, Bool.eq_false_iff.mpr hok.1⟩, hmap, hraw⟩
  · rintro ⟨⟨hhash, hsep, hcontrol⟩, hmap, hraw⟩
    rw [cut_of_not_mem hhash, cut_of_not_mem hsep, hmap, decode_of_isRaw hraw]
    simp [decode, hcontrol]

/-- The text means itself in a path and as the name of a parameter. -/
abbrev IsPlain (s : Bytes) : Prop := (bytesOf "#?&=+%").all (· ∉ s) ∧ s.any isControl = false

theorem IsPlain.free (h : IsPlain s) (m : UInt8) (hm : m ∈ bytesOf "#?&=+%") : m ∉ s :=
  of_decide_eq_true (List.all_eq_true.mp h.1 m hm)

theorem formValue_parse (hs : IsPlain s) (ht : IsPlain t) (hname : formDecode t = some t) :
    (parse (s ++ '?'.toUInt8 :: (t ++ '='.toUInt8 :: v))).bind (formValue t ·.2) =
      readBack '&'.toUInt8 false plusToSpace v := by
  have hstem : '#'.toUInt8 ∉ s ++ '?'.toUInt8 :: (t ++ ['='.toUInt8]) := by
    have hhash := And.intro (hs.free '#'.toUInt8 (by decide)) (ht.free '#'.toUInt8 (by decide))
    simp [hhash]
    decide
  have hcut := cut_append (t := v) hstem
  have hvalue : formValue t (t ++ '='.toUInt8 :: (cut '#'.toUInt8 v).1) =
      formDecode (cut '&'.toUInt8 (cut '#'.toUInt8 v).1).1 := by
    have hsplit : cut '='.toUInt8 (t ++ (cut '&'.toUInt8 ('='.toUInt8 :: (cut '#'.toUInt8 v).1)).1) =
      (t, (cut '&'.toUInt8 (cut '#'.toUInt8 v).1).1) := cut_at (ht.free '='.toUInt8 (by decide))
    unfold formValue
    rw [cut_append (ht.free '&'.toUInt8 (by decide)), hsplit]
    exact if_pos hname
  simp only [List.append_assoc, List.cons_append, List.nil_append] at hcut
  have hpath : decode true (s ++ []) = some (s ++ []) :=
    decode_append (hs.free '%'.toUInt8 (by decide))
  rw [List.append_nil] at hpath
  have hcontrol : (s ++ '?'.toUInt8 :: (t ++ '='.toUInt8 :: (cut '#'.toUInt8 v).1)).any isControl =
      (cut '#'.toUInt8 v).1.any isControl := by
    simp only [List.any_append, List.any_cons, hs.2, ht.2]
    rfl
  unfold parse readBack
  dsimp only
  rw [hcut, cut_at (hs.free '?'.toUInt8 (by decide)), hpath, hcontrol]
  split
  · rfl
  · exact hvalue

theorem segment_parse (hs : IsPlain s) : (parse (s ++ v)).bind (segment s ·.1) =
    (readBack '?'.toUInt8 true id v).filter ('/'.toUInt8 ∉ ·) := by
  unfold parse readBack
  dsimp only
  rw [cut_append (hs.free '#'.toUInt8 (by decide)), cut_append (hs.free '?'.toUInt8 (by decide)),
    List.any_append, hs.2, Bool.false_or, decode_append (hs.free '%'.toUInt8 (by decide)),
    List.map_id]
  split
  · rfl
  · cases decode true (cut '?'.toUInt8 (cut '#'.toUInt8 v).1).1 with
    | none => rfl
    | some r => simp [segment, Option.filter]

end Go.Url
