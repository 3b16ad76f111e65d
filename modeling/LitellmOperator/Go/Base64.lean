import Mathlib.Algebra.Order.Ring.Int

/-! # Base64 without padding

`base64.RawStdEncoding` on bytes. Three bytes are four digits of six bits each, and one or two bytes
left over are two or three digits, the last of which is filled up with zeros. Decoding skips line
breaks, rejects other characters that are no digits, and a single digit left over, and does not look
at the bits that filled up the last digit (the encoding is not strict).

What was encoded decodes to itself (`decode_encode`), and no character of it is a `$`
(`dollar_not_mem_encode`), which makes it fit for fields separated by `$`.
-/

set_option autoImplicit false

namespace Go.Base64

/-! ## Digits -/

/-- `A`–`Z`, `a`–`z`, `0`–`9`, `+`, `/`. -/
def digitChar (n : Nat) : Char :=
  if n < 26 then Char.ofNat (n + 65)
  else if n < 52 then Char.ofNat (n - 26 + 97)
  else if n < 62 then Char.ofNat (n - 52 + 48)
  else if n = 62 then '+'
  else '/'

def digitValue (c : Char) : Option Nat :=
  if 65 ≤ c.toNat ∧ c.toNat ≤ 90 then some (c.toNat - 65)
  else if 97 ≤ c.toNat ∧ c.toNat ≤ 122 then some (c.toNat - 97 + 26)
  else if 48 ≤ c.toNat ∧ c.toNat ≤ 57 then some (c.toNat - 48 + 52)
  else if c = '+' then some 62
  else if c = '/' then some 63
  else none

/-- A line break, which decoding skips. -/
def isBreak (c : Char) : Bool := c = '\r' || c = '\n'

theorem digitValue_digitChar (n : Nat) (h : n < 64) : digitValue (digitChar n) = some n := by
  have hall : ∀ n : Fin 64, digitValue (digitChar n) = some n.val := by decide
  exact hall ⟨n, h⟩

theorem digitChar_plain (n : Nat) (h : n < 64) :
    isBreak (digitChar n) = false ∧ digitChar n ≠ '$' := by
  have hall : ∀ n : Fin 64, isBreak (digitChar n) = false ∧ digitChar n ≠ '$' := by decide
  exact hall ⟨n, h⟩

/-! ## Digits of bytes -/

/-- The digits of some bytes. -/
def digits : List UInt8 → List Nat
  | [] => []
  | [a] => [a.toNat / 4, a.toNat % 4 * 16]
  | [a, b] => [a.toNat / 4, a.toNat % 4 * 16 + b.toNat / 16, b.toNat % 16 * 4]
  | a :: b :: c :: rest =>
    a.toNat / 4 :: (a.toNat % 4 * 16 + b.toNat / 16) :: (b.toNat % 16 * 4 + c.toNat / 64) ::
      c.toNat % 64 :: digits rest

/-- The bytes of some digits. -/
def bytes : List Nat → Option (List UInt8)
  | [] => some []
  | [_] => none
  | [w, x] => some [UInt8.ofNat (w * 4 + x / 16)]
  | [w, x, y] => some [UInt8.ofNat (w * 4 + x / 16), UInt8.ofNat (x % 16 * 16 + y / 4)]
  | w :: x :: y :: z :: rest =>
    (bytes rest).map (fun bs => UInt8.ofNat (w * 4 + x / 16) ::
      UInt8.ofNat (x % 16 * 16 + y / 4) :: UInt8.ofNat (y % 4 * 64 + z) :: bs)

variable (bs : List UInt8)

theorem digits_lt : ∀ n ∈ digits bs, n < 64 := by
  -- three bytes at a time, as the digits are made
  induction bs using digits.induct with
  | case1 => simp [digits]
  | case2 a =>
    have ha := a.toNat_lt
    simp only [digits, List.mem_cons, List.not_mem_nil, or_false]
    omega
  | case3 a b =>
    have ha := a.toNat_lt
    have hb := b.toNat_lt
    simp only [digits, List.mem_cons, List.not_mem_nil, or_false]
    omega
  | case4 a b c rest ih =>
    have ha := a.toNat_lt
    have hb := b.toNat_lt
    have hc := c.toNat_lt
    intro n hn
    simp only [digits, List.mem_cons] at hn
    rcases hn with rfl | rfl | rfl | rfl | hn
    · omega
    · omega
    · omega
    · omega
    · exact ih n hn

theorem ofNat_eq_of_toNat {a : UInt8} {n : Nat} (h : n = a.toNat) : UInt8.ofNat n = a := by
  rw [h]
  exact UInt8.ofNat_toNat

theorem bytes_digits : bytes (digits bs) = some bs := by
  induction bs using digits.induct with
  | case1 => rfl
  | case2 a =>
    have ha := a.toNat_lt
    have hfirst : UInt8.ofNat (a.toNat / 4 * 4 + a.toNat % 4 * 16 / 16) = a :=
      ofNat_eq_of_toNat (by omega)
    simp only [digits, bytes, hfirst]
  | case3 a b =>
    have ha := a.toNat_lt
    have hb := b.toNat_lt
    have hfirst : UInt8.ofNat (a.toNat / 4 * 4 + (a.toNat % 4 * 16 + b.toNat / 16) / 16) = a :=
      ofNat_eq_of_toNat (by omega)
    have hsecond : UInt8.ofNat ((a.toNat % 4 * 16 + b.toNat / 16) % 16 * 16 +
        b.toNat % 16 * 4 / 4) = b := ofNat_eq_of_toNat (by omega)
    simp only [digits, bytes, hfirst, hsecond]
  | case4 a b c rest ih =>
    have ha := a.toNat_lt
    have hb := b.toNat_lt
    have hc := c.toNat_lt
    have hfirst : UInt8.ofNat (a.toNat / 4 * 4 + (a.toNat % 4 * 16 + b.toNat / 16) / 16) = a :=
      ofNat_eq_of_toNat (by omega)
    have hsecond : UInt8.ofNat ((a.toNat % 4 * 16 + b.toNat / 16) % 16 * 16 +
        (b.toNat % 16 * 4 + c.toNat / 64) / 4) = b := ofNat_eq_of_toNat (by omega)
    have hthird : UInt8.ofNat ((b.toNat % 16 * 4 + c.toNat / 64) % 4 * 64 + c.toNat % 64) = c :=
      ofNat_eq_of_toNat (by omega)
    simp only [digits, bytes, ih, Option.map_some, hfirst, hsecond, hthird]

/-! ## Text -/

/-- `RawStdEncoding.EncodeToString`. -/
def encode : List Char := (digits bs).map digitChar

/-- `RawStdEncoding.DecodeString`. -/
def decode (cs : List Char) : Option (List UInt8) :=
  ((cs.filter (!isBreak ·)).mapM digitValue).bind bytes

theorem mapM_digitValue (ns : List Nat) (h : ∀ n ∈ ns, n < 64) :
    (ns.map digitChar).mapM digitValue = some ns := by
  induction ns with
  | nil => rfl
  | cons n ns ih =>
    have hn := digitValue_digitChar n (h n List.mem_cons_self)
    have hrest := ih (fun m hm => h m (List.mem_cons_of_mem _ hm))
    rw [List.map_cons, List.mapM_cons, hn, hrest]
    rfl

/-- **Decoding undoes encoding.** -/
theorem decode_encode : decode (encode bs) = some bs := by
  have hplain : (encode bs).filter (!isBreak ·) = encode bs := by
    refine List.filter_eq_self.mpr (fun c hc => ?_)
    obtain ⟨n, hn, rfl⟩ := List.mem_map.mp hc
    rw [(digitChar_plain n (digits_lt bs n hn)).1]
    rfl
  unfold decode
  rw [hplain]
  unfold encode
  rw [mapM_digitValue _ (digits_lt bs)]
  exact bytes_digits bs

theorem dollar_not_mem_encode : '$' ∉ encode bs := by
  intro h
  obtain ⟨n, hn, heq⟩ := List.mem_map.mp h
  exact (digitChar_plain n (digits_lt bs n hn)).2 heq

end Go.Base64
