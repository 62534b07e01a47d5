import Mathlib
import StorageCalls.Call.Options
import StorageCalls.Proofs.Numerals

namespace StorageCalls

namespace Digest

variable {key block message : List UInt8}

/-- A key as one block of 64 bytes, filled up with zeros. A key that is longer than a block stands
for its digest. -/
structure IsKeyBlock (key block : List UInt8) : Prop where
  length : block.length = 64
  short : key.length ≤ 64 → ∃ n, block = key ++ List.replicate n 0
  long : 64 < key.length → ∃ n, block = sha256 key ++ List.replicate n 0

/-- A keyed digest is the digest of an outer block and of the digest of an inner block and the
message, where each block is the key combined with one byte over and over. -/
def IsKeyed (key message digest : List UInt8) : Prop :=
  ∃ block, IsKeyBlock key block ∧
    let inner := List.zipWith (· ^^^ ·) block (List.replicate 64 0x36)
    let outer := List.zipWith (· ^^^ ·) block (List.replicate 64 0x5c)
    digest = sha256 (outer ++ sha256 (inner ++ message))

theorem isKeyBlock_hmacKeyBlock (key : List UInt8) : IsKeyBlock key (hmacKeyBlock key) where
  length := by
    have hshort : (if 64 < key.length then sha256 key else key).length ≤ 64 := by
      split
      · rw [length_sha256]
        decide
      · next h => exact Nat.not_lt.1 h
    rw [hmacKeyBlock, List.length_append, List.length_replicate]
    exact Nat.add_sub_of_le hshort
  short h := ⟨_, by rw [hmacKeyBlock, if_neg (Nat.not_lt.2 h)]⟩
  long h := ⟨_, by rw [hmacKeyBlock, if_pos h]⟩

theorem zipWith_replicate_of_length {n : Nat} (h : block.length = n) (b : UInt8) :
    List.zipWith (· ^^^ ·) block (List.replicate n b) = block.map (· ^^^ b) := by
  subst h
  induction block with
  | nil => rfl
  | cons a block ih => rw [List.length_cons, List.replicate_succ, List.zipWith_cons_cons, ih,
      List.map_cons]

theorem isKeyed_hmacSha256 (key message : List UInt8) :
    IsKeyed key message (hmacSha256 key message) := by
  have hblock := isKeyBlock_hmacKeyBlock key
  refine ⟨hmacKeyBlock key, hblock, ?_⟩
  simp only [zipWith_replicate_of_length hblock.length]
  rfl

end Digest

/-- The parts of a token, and what they say of the secret and of the second it was issued at. -/
structure Bears (token secret : String) (issuedAt : UInt64) (signature stamp : String) : Prop where
  parts : (token.split '.').toList.map (·.copy) = ["v2", signature, stamp]
  length : signature.length = 64
  digits : ∀ c ∈ signature.toList, Text.isSmallHex c
  signed : ∃ digest, Text.bytesOfHex? signature.toList = some digest ∧
    Digest.IsKeyed (Text.utf8Bytes secret) (Text.utf8Bytes stamp) digest
  canonical : Text.IsDecimal stamp.toList issuedAt.toNat
  read : stamp.toNat? = some issuedAt.toNat

theorem Bears.issuedAt_eq {token secret secret' signature signature' stamp stamp' : String}
    {issuedAt issuedAt' : UInt64} (h : Bears token secret issuedAt signature stamp)
    (h' : Bears token secret' issuedAt' signature' stamp') : issuedAt = issuedAt' := by
  have hparts := h.parts.symm.trans h'.parts
  simp only [List.cons.injEq, true_and, and_true] at hparts
  obtain ⟨-, rfl⟩ := hparts
  exact UInt64.toNat_inj.1 (Option.some.inj (h.read.symm.trans h'.read))

theorem bears_authorizationToken (secret : String) (issuedAt : UInt64) :
    ∃ signature stamp,
      Bears (authorizationToken secret issuedAt.toNat) secret issuedAt signature stamp := by
  let stamp := toString issuedAt.toNat
  let digest := Digest.hmacSha256 (Text.utf8Bytes secret) (Text.utf8Bytes stamp)
  have hstamp : stamp.toList = Nat.toDigits 10 issuedAt.toNat := Nat.toList_repr
  have hdecimal : Text.IsDecimal stamp.toList issuedAt.toNat :=
    hstamp ▸ Text.isDecimal_toDigits _
  have hsignature : (Text.hex digest).toList = Text.hexChars digest := String.toList_ofList
  have hdigits : ∀ c ∈ (Text.hex digest).toList, Text.isSmallHex c := by
    rw [hsignature]
    exact fun c => Text.isSmallHex_of_mem_hexChars
  -- Neither digits nor the version hold the separator, so there are three parts and no more.
  have hapart : ∀ part ∈ ["v2", Text.hex digest, stamp], '.' ∉ part.toList := by
    simp only [List.forall_mem_cons, List.not_mem_nil, false_implies, implies_true, and_true]
    refine ⟨by decide, fun h => ?_, fun h => ?_⟩
    · exact absurd (hdigits _ h) (by decide)
    · exact absurd (hdecimal.digit _ h) (by decide)
  have hjoin : authorizationToken secret issuedAt.toNat =
      (String.singleton '.').intercalate ["v2", Text.hex digest, stamp] := rfl
  refine ⟨Text.hex digest, stamp, ?_, ?_, hdigits, ⟨digest, ?_, Digest.isKeyed_hmacSha256 _ _⟩,
    hdecimal, Nat.toNat?_repr _⟩
  · rw [hjoin, String.toList_split_intercalate hapart]
    rfl
  · rw [← String.length_toList, hsignature, Text.length_hexChars, Digest.length_hmacSha256]
  · rw [hsignature, Text.bytesOfHex?_hexChars]

/-- For every secret and every second, a token can be taken apart and gives the second back, and
only a token of the same second can be equal to it. -/
theorem token_tells_second (secret : String) (issuedAt : UInt64) :
    (∃ signature stamp,
      Bears (authorizationToken secret issuedAt.toNat) secret issuedAt signature stamp) ∧
    ∀ (other : String) (later : UInt64), later ≠ issuedAt →
      authorizationToken other later.toNat ≠ authorizationToken secret issuedAt.toNat := by
  obtain ⟨signature, stamp, h⟩ := bears_authorizationToken secret issuedAt
  refine ⟨⟨signature, stamp, h⟩, fun other later hne heq => hne ?_⟩
  obtain ⟨signature', stamp', h'⟩ := bears_authorizationToken other later
  exact (heq ▸ h').issuedAt_eq h

end StorageCalls
