import Mathlib.Algebra.Order.Ring.Int

/-! # Go errors and strings

An error value is a leaf, or another error wrapped by `fmt.Errorf` with one `%w`. Leaves are a
parameter: sentinels, typed errors and plain texts of the program at hand. Every chain ends in
exactly one leaf, so `errors.Is` and `errors.As` are questions about it. Strings are sequences
of Unicode characters; the few functions of the standard library used on them are below.
-/

set_option autoImplicit false

namespace Go

inductive Err (L : Type) where
  | leaf (l : L)
  /-- `fmt.Errorf(pre + "%w" + post, e)`. -/
  | wrap (pre : String) (e : Err L) (post : String)
  deriving DecidableEq, Repr

namespace Err

variable {L : Type}

/-- The end of the chain. -/
def root : Err L → L
  | leaf l => l
  | wrap _ e _ => e.root

/-- `err.Error()`, given the texts of the leaves. -/
def message (text : L → String) : Err L → String
  | leaf l => text l
  | wrap pre e post => pre ++ e.message text ++ post

/-- `errors.Unwrap`. -/
def unwrap : Err L → Option (Err L)
  | leaf _ => none
  | wrap _ e _ => some e

end Err

/-- The verb `%q`. -/
def quote (s : String) : String := s.quote

def containsChars (sub : List Char) : List Char → Bool
  | [] => sub.isEmpty
  | c :: cs => sub.isPrefixOf (c :: cs) || containsChars sub cs

/-- `strings.Contains`. -/
def contains (s sub : String) : Bool := containsChars sub.toList s.toList

/-- `strings.ToLower` on ASCII letters. -/
def toLower (s : String) : String := String.ofList (s.toList.map Char.toLower)

/-- `old` taken off the front of a list, if it is there. -/
def stripFront? : List Char → List Char → Option (List Char)
  | [], s => some s
  | _ :: _, [] => none
  | c :: old, d :: s => if c = d then stripFront? old s else none

/-- Replaces the occurrences of a non-empty `old`, left to right and without overlap; `fuel` bounds
the number of characters still to look at. -/
def replaceChars (old new : List Char) : Nat → List Char → List Char
  | 0, s => s
  | _ + 1, [] => []
  | fuel + 1, c :: s =>
    match stripFront? old (c :: s) with
    | some rest => new ++ replaceChars old new fuel rest
    | none => c :: replaceChars old new fuel s

/-- `strings.ReplaceAll`, for a non-empty `old`. -/
def replaceAll (s old new : String) : String :=
  String.ofList (replaceChars old.toList new.toList (s.toList.length + 1) s.toList)

/-- The space that `fmt.Sscanf` skips before a number; a line break is an error there. -/
def isSpace (c : Char) : Bool :=
  [9, 11, 12, 13, 32, 0x85, 0xa0, 0x1680, 0x2028, 0x2029, 0x202f, 0x205f, 0x3000].contains c.toNat
    || (0x2000 ≤ c.toNat && c.toNat ≤ 0x200a)

def decimal (ds : List Char) : Nat := ds.foldl (fun n d => n * 10 + (d.toNat - 48)) 0

/-- The verb `%d` of `fmt.Sscanf` for an `int`: what comes after the number is not looked at. -/
def scanInt (cs : List Char) : Option Int :=
  let cs := cs.dropWhile isSpace
  let negative := cs.head? = some '-'
  let ds := (if negative || cs.head? = some '+' then cs.tail else cs).takeWhile Char.isDigit
  let n : Int := if negative then -(decimal ds : Int) else decimal ds
  if ds.isEmpty then none
  else if -(2 ^ 63) ≤ n ∧ n < 2 ^ 63 then some n else none

def hexDigit (n : Nat) : Char := Nat.digitChar (n % 16)

/-- How `json.Marshal` writes a character inside a string. -/
def jsonChar (c : Char) : List Char :=
  if c = '"' ∨ c = '\\' then ['\\', c]
  else if c = '\n' then ['\\', 'n']
  else if c = '\r' then ['\\', 'r']
  else if c = '\t' then ['\\', 't']
  else if c.toNat = 8 then ['\\', 'b']
  else if c.toNat = 12 then ['\\', 'f']
  else if c.toNat < 32 ∨ c = '<' ∨ c = '>' ∨ c = '&' ∨ c.toNat = 0x2028 ∨ c.toNat = 0x2029 then
    ['\\', 'u', hexDigit (c.toNat / 4096), hexDigit (c.toNat / 256), hexDigit (c.toNat / 16),
      hexDigit c.toNat]
  else [c]

/-- The content of `json.Marshal(s)` between the quotes. -/
def jsonContent (s : String) : String := String.ofList (s.toList.flatMap jsonChar)

/-- An IEEE 754 double, by its bits. The program only copies and compares them. -/
structure Float64 where
  bits : UInt64
  deriving DecidableEq, Repr

/-- `time.Time`, in seconds. -/
abbrev Time : Type := Int

/-! ## Length-prefixed fields

A sequence of byte strings written one after the other, each after its length as eight big-endian
bytes. As long as no field is longer than such a prefix can say, the sequence can be read back from
the bytes (`fields_injective`), whatever the fields hold.
-/

abbrev Bytes : Type := List UInt8

/-- `[]byte(s)`. -/
def bytesOf (s : String) : Bytes := s.toUTF8.data.toList

theorem bytesOf_injective {s t : String} (h : bytesOf s = bytesOf t) : s = t := by
  have hdata : s.toUTF8.data = t.toUTF8.data := Array.toList_inj.mp h
  exact String.toByteArray_inj.mp (ByteArray.ext hdata)

theorem bytesOf_append (s t : String) : bytesOf (s ++ t) = bytesOf s ++ bytesOf t := by
  simp [bytesOf]

/-! ## One number in eight bytes -/

/-- `binary.BigEndian.PutUint64`. -/
def putUint64 (n : Nat) : Bytes :=
  [n / 256 ^ 7, n / 256 ^ 6, n / 256 ^ 5, n / 256 ^ 4, n / 256 ^ 3, n / 256 ^ 2, n / 256, n].map
    UInt8.ofNat

@[simp] theorem length_putUint64 (n : Nat) : (putUint64 n).length = 8 := rfl

/-- `binary.BigEndian.Uint64`. -/
def uint64 (bs : Bytes) : Nat := bs.foldl (fun n b => n * 256 + b.toNat) 0

theorem uint64_putUint64 {n : Nat} (h : n < 2 ^ 64) : uint64 (putUint64 n) = n := by
  simp only [uint64, putUint64, List.map_cons, List.map_nil, List.foldl_cons, List.foldl_nil,
    UInt8.toNat_ofNat']
  omega

theorem putUint64_injective {m n : Nat} (hm : m < 2 ^ 64) (hn : n < 2 ^ 64)
    (h : putUint64 m = putUint64 n) : m = n := by
  rw [← uint64_putUint64 hm, ← uint64_putUint64 hn, h]

/-! ## Fields -/

variable (p : Bytes)

/-- A byte string after its length. -/
def field : Bytes := putUint64 p.length ++ p

def fields (ps : List Bytes) : Bytes := ps.flatMap field

@[simp] theorem fields_cons (ps : List Bytes) : fields (p :: ps) = field p ++ fields ps := rfl

/-- The length fits into its prefix. A Go slice or string is never longer than `2 ^ 63 - 1`. -/
def Sized : Prop := p.length < 2 ^ 63

instance (p : Bytes) : Decidable (Sized p) := inferInstanceAs (Decidable (_ < _))

/-- The first field of a sequence can be read off its bytes, and so can the rest. -/
theorem field_append_inj {p q r s : Bytes} (hp : Sized p) (hq : Sized q)
    (h : field p ++ r = field q ++ s) : p = q ∧ r = s := by
  unfold field at h
  rw [List.append_assoc, List.append_assoc] at h
  -- both prefixes are eight bytes long, so they are the same number
  obtain ⟨hlen, hrest⟩ := List.append_inj h rfl
  have hp' : p.length < 2 ^ 64 := Nat.lt_trans hp (by decide)
  have hq' : q.length < 2 ^ 64 := Nat.lt_trans hq (by decide)
  exact List.append_inj hrest (putUint64_injective hp' hq' hlen)

theorem field_ne_nil : field p ≠ [] := by
  intro h
  have hlen := congrArg List.length h
  simp [field] at hlen

/-- **The fields can be read back.** -/
theorem fields_injective {ps qs : List Bytes} (hp : ∀ p ∈ ps, Sized p) (hq : ∀ q ∈ qs, Sized q)
    (h : fields ps = fields qs) : ps = qs := by
  induction ps generalizing qs with
  | nil =>
    cases qs with
    | nil => rfl
    | cons q qs => exact absurd (List.append_eq_nil_iff.mp h.symm).1 (field_ne_nil q)
  | cons p ps ih =>
    cases qs with
    | nil => exact absurd (List.append_eq_nil_iff.mp h).1 (field_ne_nil p)
    | cons q qs =>
      rw [fields_cons, fields_cons] at h
      obtain ⟨rfl, hrest⟩ := field_append_inj (hp p (by simp)) (hq q (by simp)) h
      rw [ih (fun x hx => hp x (by simp [hx])) (fun x hx => hq x (by simp [hx])) hrest]

/-! ## Separated texts -/

/-- A list up to its first separator can be read off, and so can the rest. -/
theorem append_separated_inj {A : Type} {sep : A} {p q r s : List A} (hp : sep ∉ p) (hq : sep ∉ q)
    (hr : r = [] ∨ r.head? = some sep) (hs : s = [] ∨ s.head? = some sep)
    (h : p ++ r = q ++ s) : p = q ∧ r = s := by
  induction p generalizing q with
  | nil =>
    cases q with
    | nil => exact ⟨rfl, h⟩
    | cons b q =>
      -- the rest on the left would have to begin with an element of `q`
      rcases hr with rfl | hr
      · cases h
      · rw [List.nil_append] at h
        rw [h] at hr
        cases hr
        exact absurd List.mem_cons_self hq
  | cons a p ih =>
    cases q with
    | nil =>
      rcases hs with rfl | hs
      · cases h
      · rw [List.nil_append] at h
        rw [← h] at hs
        cases hs
        exact absurd List.mem_cons_self hp
    | cons b q =>
      obtain ⟨rfl, h'⟩ := List.cons.inj h
      obtain ⟨rfl, hrest⟩ := ih (fun hmem => hp (List.mem_cons_of_mem _ hmem))
        (fun hmem => hq (List.mem_cons_of_mem _ hmem)) h'
      exact ⟨rfl, hrest⟩

end Go
