import Mathlib.Data.List.Induction
import StorageCalls.Text.Bytes
import StorageCalls.Text.Split

namespace StorageCalls.Text

variable {base n d : Nat} {ds : List Nat} {value : Char → Nat} {c : Char}

theorem ofDigits_concat (base : Nat) (ds : List Nat) (d : Nat) :
    ofDigits base (ds ++ [d]) = base * ofDigits base ds + d := by
  simp [ofDigits]

theorem ofDigits_lt (h : ∀ d ∈ ds, d < base) : ofDigits base ds < Nat.pow base ds.length := by
  induction ds using List.reverseRecOn with
  | nil => simp [ofDigits]
  | append_singleton ds d ih =>
    have hfront : ofDigits base ds + 1 ≤ Nat.pow base ds.length :=
      ih fun e he => h e (List.mem_append_left _ he)
    have hd : d < base := h d (by simp)
    rw [ofDigits_concat, List.length_append, List.length_singleton]
    calc base * ofDigits base ds + d < base * (ofDigits base ds + 1) := by
          rw [Nat.mul_add, Nat.mul_one]
          omega
      _ ≤ base * Nat.pow base ds.length := Nat.mul_le_mul_left _ hfront
      _ = Nat.pow base (ds.length + 1) := (Nat.mul_comm _ _).trans (Nat.pow_succ _ _).symm

/-- Reading is the inverse of writing, for any reading of the single digits. -/
theorem ofDigits_toDigits (hbase : 1 < base) (hvalue : ∀ d < base, value d.digitChar = d) :
    ofDigits base ((Nat.toDigits base n).map value) = n := by
  induction n using Nat.strongRecOn with
  | ind n ih =>
    by_cases hn : n < base
    · rw [Nat.toDigits_of_lt_base hn]
      simp [ofDigits, hvalue n hn]
    · have hdiv : n / base < n := Nat.div_lt_self (by omega) hbase
      have hmod : n % base < base := Nat.mod_lt _ (by omega)
      rw [Nat.toDigits_of_base_le hbase (by omega), List.map_append, List.map_singleton,
        ofDigits_concat, ih _ hdiv, hvalue _ hmod]
      exact Nat.div_add_mod n base

theorem ofDigits_decimal (n : Nat) :
    ofDigits 10 ((Nat.toDigits 10 n).map fun c => c.toNat - 48) = n :=
  ofDigits_toDigits (by decide) fun _ => Nat.toNat_digitChar_sub_48_of_lt_ten

theorem mem_toDigits (hbase : 1 < base) (h : c ∈ Nat.toDigits base n) :
    ∃ d < base, c = d.digitChar := by
  induction n using Nat.strongRecOn with
  | ind n ih =>
    by_cases hn : n < base
    · rw [Nat.toDigits_of_lt_base hn, List.mem_singleton] at h
      exact ⟨n, hn, h⟩
    · rw [Nat.toDigits_of_base_le hbase (by omega), List.mem_append, List.mem_singleton] at h
      obtain hfront | hlast := h
      · exact ih _ (Nat.div_lt_self (by omega) hbase) hfront
      · exact ⟨n % base, Nat.mod_lt _ (by omega), hlast⟩

/-- Digits that write a number in the shortest way: there is at least one, and the first is zero
only if it is the only one. -/
structure IsDecimal (digits : List Char) (n : Nat) : Prop where
  digit : ∀ c ∈ digits, c.isDigit
  nonempty : digits ≠ []
  shortest : digits.head? = some '0' → digits = ['0']
  value : ofDigits 10 (digits.map fun c => c.toNat - 48) = n

theorem head?_toDigits (hn : 0 < n) : (Nat.toDigits 10 n).head? ≠ some '0' := by
  induction n using Nat.strongRecOn with
  | ind n ih =>
    by_cases hlt : n < 10
    · rw [Nat.toDigits_of_lt_base hlt]
      simp
      omega
    · have hfront := ih (n / 10) (by omega) (by omega)
      rw [Nat.toDigits_of_base_le (by decide) (by omega)]
      cases hdigits : Nat.toDigits 10 (n / 10) with
      | nil => exact absurd hdigits Nat.toDigits_ne_nil
      | cons c cs => rwa [hdigits] at hfront

theorem isDecimal_toDigits (n : Nat) : IsDecimal (Nat.toDigits 10 n) n where
  digit c := Nat.isDigit_of_mem_toDigits (by decide) (by decide)
  nonempty := Nat.toDigits_ne_nil
  shortest h := by
    obtain rfl | hn := n.eq_zero_or_pos
    · rfl
    · exact absurd h (head?_toDigits hn)
  value := ofDigits_decimal n

theorem hexValue?_digitChar (hd : d < 16) : hexValue? d.digitChar = some d := by
  decide +revert

theorem lt_of_hexValue? (h : hexValue? c = some d) : d < 16 := by
  unfold hexValue? at h
  split at h
  · next hc =>
    have hle : c.toNat ≤ 57 := hc.2
    cases h
    omega
  · split at h
    · next hc =>
      have hle : c.toNat ≤ 102 := hc.2
      cases h
      omega
    · split at h
      · next hc =>
        have hle : c.toNat ≤ 70 := hc.2
        cases h
        omega
      · cases h

def isSmallHex (c : Char) : Bool := c.isDigit || ('a' ≤ c && c ≤ 'f')

theorem hexValue?_hexDigit (hd : d < 16) : hexValue? (hexDigit d) = some d := by
  decide +revert

theorem isSmallHex_hexDigit (hd : d < 16) : isSmallHex (hexDigit d) := by
  decide +revert

theorem isSmallHex_of_mem_hexChars {bytes : List UInt8} (h : c ∈ hexChars bytes) :
    isSmallHex c := by
  obtain ⟨b, -, hc⟩ := List.mem_flatMap.1 h
  have hlt := b.toNat_lt
  simp only [hexOfByte, List.mem_cons, List.not_mem_nil, or_false] at hc
  obtain rfl | rfl := hc <;> exact isSmallHex_hexDigit (by omega)

theorem length_hexChars (bytes : List UInt8) : (hexChars bytes).length = 2 * bytes.length := by
  induction bytes with
  | nil => rfl
  | cons b bytes ih =>
    rw [hexChars, List.flatMap_cons, List.length_append, ← hexChars, ih, List.length_cons]
    exact Nat.add_comm _ _

theorem bytesOfHex?_hexChars (bytes : List UInt8) : bytesOfHex? (hexChars bytes) = some bytes := by
  induction bytes with
  | nil => rfl
  | cons b bytes ih =>
    have hlt := b.toNat_lt
    have hchars : hexChars (b :: bytes) =
        hexDigit (b.toNat / 16) :: hexDigit (b.toNat % 16) :: hexChars bytes := rfl
    have hbyte : UInt8.ofNat (16 * (b.toNat / 16) + b.toNat % 16) = b := by
      rw [Nat.div_add_mod, UInt8.ofNat_toNat]
    rw [hchars, bytesOfHex?, hexValue?_hexDigit (by omega), hexValue?_hexDigit (by omega), ih]
    exact congrArg (fun b => some (b :: bytes)) hbyte

end StorageCalls.Text
