import LitellmOperator.Controller.Common
import LitellmOperator.Go.Base64

/-! # The digest of an initial password

`litellmuser_controller.go`: the digest is a string of six parts separated by `$`, the last two of
which are the salt and the key that Argon2id makes of password and salt, in Base64. To check a
password, the key is made again with the salt of the digest.
-/

set_option autoImplicit false

namespace LitellmOperator

open Effect Go

def argon2Version : Nat := 19
def argon2Time : Nat := 2
def argon2Memory : Nat := 19 * 1024
def argon2Threads : Nat := 1
def argon2KeyLen : Nat := 32
def argon2SaltLen : Nat := 16

def argon2Params : String :=
  "m=" ++ toString argon2Memory ++ ",t=" ++ toString argon2Time ++ ",p=" ++ toString argon2Threads

variable (lib : Ext)

variable (password : String)

/-- The key of a password under a salt. -/
def Ext.argon2Key (salt : List UInt8) : List UInt8 :=
  lib.argon2IDKey password.toUTF8.toList salt argon2Time argon2Memory argon2Threads argon2KeyLen

/-- `passwordDigest`, with the random salt it has drawn. -/
def Ext.passwordDigest (salt : List UInt8) : String :=
  "$argon2id$v=" ++ toString argon2Version ++ "$" ++ argon2Params ++ "$" ++
    String.ofList (Base64.encode salt) ++ "$" ++
    String.ofList (Base64.encode (lib.argon2Key password salt))

/-- `fmt.Sscanf(part, "v=%d", &version)`. -/
def scanVersion (part : List Char) : Option Int := (stripFront? ['v', '='] part).bind scanInt

/-- The comparison of the key in a digest, for a salt and a key that decode. -/
def Ext.keyMatches (salt want : List Char) : Bool :=
  match Base64.decode salt, Base64.decode want with
  | some salt, some want =>
    want.length = argon2KeyLen && lib.argon2Key password salt = want
  | _, _ => false

def Ext.passwordMatchesDigest (digest password : String) : Bool :=
  match digest.toList.splitOn '$' with
  | [_, name, version, params, salt, want] =>
    name = "argon2id".toList && scanVersion version = some (argon2Version : Int) &&
      params = argon2Params.toList && lib.keyMatches password salt want
  | _ => false

/-! ## A digest matches its password -/

variable (salt : List UInt8)

theorem keyMatches_encode :
    lib.keyMatches password (Base64.encode salt) (Base64.encode (lib.argon2Key password salt)) =
      true := by
  unfold Ext.keyMatches
  rw [Base64.decode_encode, Base64.decode_encode]
  have hlength : (lib.argon2Key password salt).length = argon2KeyLen :=
    lib.argon2IDKey_length _ _ _ _ _ _
  simp [hlength]

def digestParts (salt : List UInt8) : List (List Char) :=
  [[], "argon2id".toList, "v=19".toList, argon2Params.toList, Base64.encode salt,
    Base64.encode (lib.argon2Key password salt)]

theorem passwordDigest_toList : (lib.passwordDigest password salt).toList =
      ['$'].intercalate (digestParts lib password salt) := by
  have hfront : "$argon2id$v=".toList ++ (toString argon2Version).toList ++ "$".toList =
      '$' :: ("argon2id".toList ++ '$' :: ("v=19".toList ++ ['$'])) := by decide
  have hsep : "$".toList = ['$'] := by decide
  unfold Ext.passwordDigest digestParts
  simp only [String.toList_append, String.toList_ofList, hfront]
  simp [List.intercalate, List.intersperse, hsep]

theorem splitOn_passwordDigest :
    (lib.passwordDigest password salt).toList.splitOn '$' = digestParts lib password salt := by
  rw [passwordDigest_toList]
  refine List.splitOn_intercalate '$' ?_ ?_
  · intro part hpart
    simp only [digestParts, List.mem_cons, List.not_mem_nil, or_false] at hpart
    rcases hpart with rfl | rfl | rfl | rfl | rfl | rfl
    · exact List.not_mem_nil
    · decide
    · decide
    · decide
    · exact Base64.dollar_not_mem_encode salt
    · exact Base64.dollar_not_mem_encode _
  · exact List.cons_ne_nil _ _

/-- **A digest matches the password it was made from.** -/
theorem passwordMatchesDigest_passwordDigest :
    lib.passwordMatchesDigest (lib.passwordDigest password salt) password = true := by
  unfold Ext.passwordMatchesDigest
  rw [splitOn_passwordDigest]
  have hversion : scanVersion "v=19".toList = some (argon2Version : Int) := by decide
  simp only [digestParts, hversion, keyMatches_encode, decide_true]
  rfl

/-! ## Nothing else does -/

/-- The arguments of a call of `argon2.IDKey`. -/
structure IDKeyCall where
  password : List UInt8
  salt : List UInt8
  time : Nat
  memory : Nat
  threads : Nat
  keyLen : Nat

def Ext.idKey (c : IDKeyCall) : List UInt8 :=
  lib.argon2IDKey c.password c.salt c.time c.memory c.threads c.keyLen

/-- The call of the operator's own parameters. -/
def ownCall (salt : List UInt8) : IDKeyCall :=
  ⟨password.toUTF8.toList, salt, argon2Time, argon2Memory, argon2Threads, argon2KeyLen⟩

/-- `passwordMatchesDigest`, which leaves the calls of Argon2id to whoever runs it. -/
def matchDigest (digest password : String) : Prog IDKeyCall (fun _ => List UInt8) Bool :=
  match digest.toList.splitOn '$' with
  | [_, name, version, params, salt, want] =>
    if name = "argon2id".toList ∧ scanVersion version = some (argon2Version : Int) ∧
        params = argon2Params.toList then
      match Base64.decode salt, Base64.decode want with
      | some salt, some want =>
        if want.length = argon2KeyLen then do
          let got ← .perform (ownCall password salt)
          return got = want
        else return false
      | _, _ => return false
    else return false
  | _ => return false

/-- What a digest is that matches: six fields, with a salt and the key that Argon2id makes of it. -/
structure DigestOf (lib : Ext) (digest password : String) (salt key : List UInt8) : Prop where
  fields : ∃ first version saltText keyText, digest.toList.splitOn '$' =
    [first, "argon2id".toList, version, argon2Params.toList, saltText, keyText] ∧
    Base64.decode saltText = some salt ∧ Base64.decode keyText = some key
  length : key.length = 32
  key : key = lib.idKey (ownCall password salt)

theorem digestOf_of_matches {lib : Ext} {digest password : String}
    (h : lib.passwordMatchesDigest digest password = true) :
    ∃ salt key, DigestOf lib digest password salt key := by
  unfold Ext.passwordMatchesDigest at h
  split at h
  · rename_i first name version params saltText keyText hsplit
    simp only [Bool.and_eq_true, decide_eq_true_eq] at h
    obtain ⟨⟨⟨rfl, -⟩, rfl⟩, hkey⟩ := h
    unfold Ext.keyMatches at hkey
    split at hkey
    · rename_i salt key hsalt hwant
      simp only [Bool.and_eq_true, decide_eq_true_eq] at hkey
      exact ⟨salt, key, ⟨first, version, saltText, keyText, hsplit, hsalt, hwant⟩, hkey.1,
        hkey.2.symm⟩
    · cases hkey
  · cases h

/-- Run with Argon2id, the check is `passwordMatchesDigest`, and its calls are of the own kind. -/
theorem answeredBy_matchDigest (digest password : String) :
    ((matchDigest digest password).answeredBy lib.idKey).2 =
        lib.passwordMatchesDigest digest password ∧
      (matchDigest digest password).Uses (fun c => ∃ salt, c = ownCall password salt) := by
  unfold matchDigest Ext.passwordMatchesDigest
  split
  · rename_i name version params salt want _
    by_cases hhead : name = "argon2id".toList ∧ scanVersion version = some (argon2Version : Int) ∧
        params = argon2Params.toList
    · obtain ⟨rfl, hversion, rfl⟩ := hhead
      rw [if_pos ⟨rfl, hversion, rfl⟩]
      simp only [hversion, decide_true, Bool.true_and]
      unfold Ext.keyMatches
      split
      · rename_i salt want _ _
        by_cases hlength : want.length = argon2KeyLen
        · rw [if_pos hlength]
          refine ⟨?_, ⟨salt, rfl⟩, fun _ => trivial⟩
          simp only [hlength, decide_true, Bool.true_and]
          rfl
        · rw [if_neg hlength]
          simp only [hlength, decide_false, Bool.false_and]
          exact ⟨rfl, trivial⟩
      · exact ⟨rfl, trivial⟩
    · rw [if_neg hhead]
      -- one of the three fields is wrong
      refine ⟨(Bool.eq_false_iff.mpr (fun h => ?_)).symm, trivial⟩
      simp only [Bool.and_eq_true, decide_eq_true_eq] at h
      exact hhead ⟨h.1.1.1, h.1.1.2, h.1.2⟩
  · exact ⟨rfl, trivial⟩

/-- **Digests round-trip and match nothing else.** The password matches its digest under any salt;
what matches is the digest of the password under the salt in it; and the check is made with calls of
Argon2id that all have the operator's parameters. -/
theorem password_digests_exact :
    (∀ password salt, lib.passwordMatchesDigest (lib.passwordDigest password salt) password = true)
      ∧
    (∀ digest password, lib.passwordMatchesDigest digest password = true →
      ∃ salt key, DigestOf lib digest password salt key) ∧
    (∀ digest password, ((matchDigest digest password).answeredBy lib.idKey).2 =
        lib.passwordMatchesDigest digest password ∧
      ∀ e ∈ ((matchDigest digest password).answeredBy lib.idKey).1,
        ∃ salt, e.1 = ownCall password salt) := by
  refine ⟨passwordMatchesDigest_passwordDigest lib, fun _ _ h => digestOf_of_matches h,
    fun digest password => ?_⟩
  obtain ⟨hrun, huses⟩ := answeredBy_matchDigest lib digest password
  exact ⟨hrun, huses.of_mem_trace (Prog.trace_answeredBy lib.idKey _)⟩

end LitellmOperator
