import Mathlib.Algebra.Group.Nat.Defs
import StorageCalls.Text.Bytes

namespace StorageCalls.Text

/-- The last bytes of the code of a number, each with six binary digits of it. -/
def followers : Nat → Nat → List UInt8
  | 0, _ => []
  | k + 1, n => followers k (n / 64) ++ [UInt8.ofNat (n % 64 + 0x80)]

def width (n : Nat) : Nat :=
  if n ≤ 0x7f then 0 else if n ≤ 0x7ff then 1 else if n ≤ 0xffff then 2 else 3

/-- The first byte, which tells how many follow and has the digits that are left for it. -/
def lead (n : Nat) : Nat :=
  if n ≤ 0x7f then n
  else if n ≤ 0x7ff then n / 64 + 0xc0
  else if n ≤ 0xffff then n / 4096 + 0xe0
  else n / 262144 + 0xf0

variable {c d : Char} {n m k : Nat}

theorem toNat_lt (c : Char) : c.toNat < 0x110000 := by
  have h : c.toNat < 0xd800 ∨ 0xdfff < c.toNat ∧ c.toNat < 0x110000 := c.valid
  omega

theorem utf8EncodeChar_eq (c : Char) : String.utf8EncodeChar c =
    UInt8.ofNat (lead c.toNat) :: followers (width c.toNat) c.toNat := by
  have hc := toNat_lt c
  have hv : c.val.toNat = c.toNat := rfl
  rw [String.utf8EncodeChar, hv, lead, width]
  split
  · rfl
  · split
    · simp only [followers, List.nil_append]
      congr 3
      omega
    · split <;> simp only [followers, List.nil_append, List.cons_append] <;> congr 3 <;> omega

theorem ofNat_lt_ofNat (h : n < m) (hm : m < 256) : UInt8.ofNat n < UInt8.ofNat m := by
  rw [UInt8.lt_iff_toNat_lt, UInt8.toNat_ofNat', UInt8.toNat_ofNat']
  omega

theorem followers_append_lt (h : n < m) (hsame : n / 64 ^ k = m / 64 ^ k) (xs ys : List UInt8) :
    followers k n ++ xs < followers k m ++ ys := by
  induction k generalizing n m xs ys with
  | zero => omega
  | succ k ih =>
    have hfront : n / 64 / 64 ^ k = m / 64 / 64 ^ k := by
      rwa [Nat.div_div_eq_div_mul, Nat.div_div_eq_div_mul, Nat.mul_comm, ← Nat.pow_succ]
    rw [followers, followers, List.append_assoc, List.append_assoc]
    -- The numbers differ before their last digit, or only in it.
    by_cases hlt : n / 64 < m / 64
    · exact ih hlt hfront _ _
    · have heq : n / 64 = m / 64 := by omega
      have hlast : UInt8.ofNat (n % 64 + 0x80) < UInt8.ofNat (m % 64 + 0x80) :=
        ofNat_lt_ofNat (by omega) (by omega)
      rw [heq]
      exact List.append_left_lt (List.cons_lt_cons_iff.2 (.inl hlast))

theorem lead_lt (hn : n < 0x110000) : lead n < 256 := by
  grind [lead]

/-- The first bytes tell two numbers apart, or leave it to the others. -/
theorem lead_cases (h : n < m) :
    lead n < lead m ∨
      lead n = lead m ∧ width n = width m ∧ n / 64 ^ width m = m / 64 ^ width m := by
  grind [lead, width]

theorem utf8EncodeChar_append_lt (h : c < d) (xs ys : List UInt8) :
    String.utf8EncodeChar c ++ xs < String.utf8EncodeChar d ++ ys := by
  have hlt : c.toNat < d.toNat := UInt32.lt_iff_toNat_lt.1 (Char.lt_def.1 h)
  rw [utf8EncodeChar_eq, utf8EncodeChar_eq, List.cons_append, List.cons_append,
    List.cons_lt_cons_iff]
  rcases lead_cases hlt with hlead | ⟨hlead, hwidth, hsame⟩
  · exact .inl (ofNat_lt_ofNat hlead (lead_lt (toNat_lt d)))
  · rw [hlead, hwidth]
    exact .inr ⟨rfl, followers_append_lt hlt hsame xs ys⟩

theorem flatMap_utf8EncodeChar_lt {cs ds : List Char} (h : cs < ds) :
    cs.flatMap String.utf8EncodeChar < ds.flatMap String.utf8EncodeChar := by
  induction h with
  | @nil d ds =>
    rw [List.flatMap_nil, List.flatMap_cons, utf8EncodeChar_eq]
    exact List.nil_lt_cons _ _
  | rel hlt => exact utf8EncodeChar_append_lt hlt _ _
  | cons _ ih => exact List.append_left_lt ih

theorem utf8Bytes_lt_iff {a b : String} : utf8Bytes a < utf8Bytes b ↔ a < b := by
  refine ⟨fun h => String.not_le.1 fun hle => ?_, flatMap_utf8EncodeChar_lt⟩
  by_cases heq : b = a
  · exact List.lt_irrefl _ (heq ▸ h)
  · have hlt : b < a := Std.lt_of_le_of_ne hle heq
    exact List.lt_asymm h (flatMap_utf8EncodeChar_lt hlt)

end StorageCalls.Text
