import StorageCalls.Json.Value

namespace StorageCalls.Json

open StorageCalls.Text

theorem utf8EncodeChar_ascii {c : Char} (h : c.toNat < 128) :
    String.utf8EncodeChar c = [byte c] := by
  have hv : c.val.toNat = c.toNat := rfl
  rw [String.utf8EncodeChar, hv, if_pos (by omega), byte]

theorem toNat_byte {c : Char} (h : c.toNat < 128) : (byte c).toNat = c.toNat := by
  rw [byte, UInt8.toNat_ofNat']
  omega

theorem byte_inj {c d : Char} (hc : c.toNat < 128) (hd : d.toNat < 128) (h : byte c = byte d) :
    c = d := by
  have hn : c.toNat = d.toNat := by rw [← toNat_byte hc, ← toNat_byte hd, h]
  rw [← Char.ofNat_toNat c, ← Char.ofNat_toNat d, hn]

theorem le_toNat_of_mem_utf8EncodeChar {c : Char} (h : 128 ≤ c.toNat) :
    ∀ b ∈ String.utf8EncodeChar c, 128 ≤ b.toNat := by
  have hv : c.val.toNat = c.toNat := rfl
  rw [String.utf8EncodeChar, hv, if_neg (by omega)]
  intro b hb
  split at hb
  · simp only [List.mem_cons, List.not_mem_nil, or_false] at hb
    obtain rfl | rfl := hb <;> rw [UInt8.toNat_ofNat'] <;> omega
  · split at hb
    · simp only [List.mem_cons, List.not_mem_nil, or_false] at hb
      obtain rfl | rfl | rfl := hb <;> rw [UInt8.toNat_ofNat'] <;> omega
    · simp only [List.mem_cons, List.not_mem_nil, or_false] at hb
      obtain rfl | rfl | rfl | rfl := hb <;> rw [UInt8.toNat_ofNat'] <;> omega

/-- Within a string the first bytes stand for the second: a reader that comes to them with fuel
enough takes them off and goes on. -/
def Stands (bs out : List UInt8) : Prop :=
  ∃ k ≤ bs.length, ∀ fuel s r, stringBytes fuel s = .ok r →
    stringBytes (fuel + k) (bs ++ s) = .ok (out ++ r.1, r.2)

namespace Stands

theorem nil : Stands [] [] := ⟨0, Nat.le_refl _, fun _ _ _ h => h⟩

theorem append {bs bs' out out' : List UInt8} (h : Stands bs out) (h' : Stands bs' out') :
    Stands (bs ++ bs') (out ++ out') := by
  obtain ⟨k, hk, hread⟩ := h
  obtain ⟨k', hk', hread'⟩ := h'
  refine ⟨k' + k, by rw [List.length_append]; omega, fun fuel s r hr => ?_⟩
  have h := hread _ _ _ (hread' fuel s r hr)
  rwa [Nat.add_assoc, ← List.append_assoc, ← List.append_assoc] at h

theorem byte {b : UInt8} (hquote : b ≠ Json.byte '"') (hslash : b ≠ Json.byte '\\')
    (hcontrol : ¬ b < 0x20) : Stands [b] [b] := by
  refine ⟨1, Nat.le_refl _, fun fuel s r hr => ?_⟩
  rw [List.singleton_append, stringBytes, if_neg hquote, if_neg hslash, if_neg hcontrol, hr]
  rfl

theorem bytes {bs : List UInt8} (h : ∀ b ∈ bs, 128 ≤ b.toNat) : Stands bs bs := by
  induction bs with
  | nil => exact nil
  | cons b bs ih =>
    have hb : 128 ≤ b.toNat := h b List.mem_cons_self
    have hne : ∀ n : UInt8, n.toNat < 128 → b ≠ n := fun n hn hbn => by
      rw [hbn] at hb
      omega
    have hcontrol : ¬ b < 0x20 := by
      rw [UInt8.lt_iff_toNat_lt]
      exact Nat.not_lt.2 (Nat.le_trans (by decide) hb)
    exact (byte (hne _ (by decide)) (hne _ (by decide)) hcontrol).append
      (ih fun x hx => h x (List.mem_cons_of_mem _ hx))

theorem escaped {bs out : List UInt8} (h : ∀ s, escape (bs ++ s) = .ok (out, s)) :
    Stands (Json.byte '\\' :: bs) out := by
  refine ⟨1, Nat.succ_le_succ (Nat.zero_le _), fun fuel s r hr => ?_⟩
  rw [List.cons_append, stringBytes, if_neg (by decide), if_pos rfl, h]
  simp only [bind, Except.bind, hr]
  rfl

end Stands

theorem hexOf?_hexDigit : ∀ n < 16, hexOf? (byte (hexDigit n)) = some n := by decide

theorem toNat_hexDigit_lt : ∀ n < 16, (hexDigit n).toNat < 128 := by decide

theorem escape_hex {n : Nat} (h : n < 0x20) (s : List UInt8) :
    escape
        ([byte 'u', byte '0', byte '0', byte (hexDigit (n / 16)), byte (hexDigit (n % 16))] ++ s) =
      .ok (String.utf8EncodeChar (Char.ofNat n), s) := by
  have hzero : hexOf? (byte '0') = some 0 := by decide
  have hhigh := hexOf?_hexDigit (n / 16) (by omega)
  have hlow := hexOf?_hexDigit (n % 16) (by omega)
  have hunit : hexUnit (byte '0' :: byte '0' :: byte (hexDigit (n / 16)) ::
      byte (hexDigit (n % 16)) :: s) = .ok (n, s) := by
    have hn : 16 * (n / 16) + n % 16 = n := Nat.div_add_mod n 16
    simp [hexUnit, hzero, hhigh, hlow, ofDigits, hn]
  have htrailing : isTrailing n = false := by
    simp only [isTrailing, Bool.and_eq_false_iff, decide_eq_false_iff_not]
    omega
  have hleading : isLeading n = false := by
    simp only [isLeading, Bool.and_eq_false_iff, decide_eq_false_iff_not]
    omega
  simp only [List.cons_append, List.nil_append, escape, if_pos, codePoint, hunit, bind,
    Except.bind, htrailing, hleading]
  rfl

theorem stands_short (x y : Char) (hxy : shortEscape? (byte x) = some y) (hu : byte x ≠ byte 'u')
    (hy : y.toNat < 128) : Stands [byte '\\', byte x] (String.utf8EncodeChar y) := by
  have hread : ∀ s, escape ([byte x] ++ s) = .ok ([byte y], s) := by
    intro s
    rw [List.singleton_append, escape, if_neg hu, hxy]
  rw [utf8EncodeChar_ascii hy]
  exact .escaped hread

theorem stands_escapeChar (c : Char) :
    Stands ((escapeChar c).flatMap String.utf8EncodeChar) (String.utf8EncodeChar c) := by
  unfold escapeChar
  split
  · next h =>
    subst h
    exact stands_short '"' '"' (by decide) (by decide) (by decide)
  split
  · next h =>
    subst h
    exact stands_short '\\' '\\' (by decide) (by decide) (by decide)
  split
  · next h =>
    subst h
    exact stands_short 'b' '\x08' (by decide) (by decide) (by decide)
  split
  · next h =>
    subst h
    exact stands_short 'f' '\x0c' (by decide) (by decide) (by decide)
  split
  · next h =>
    subst h
    exact stands_short 'n' '\n' (by decide) (by decide) (by decide)
  split
  · next h =>
    subst h
    exact stands_short 'r' '\r' (by decide) (by decide) (by decide)
  split
  · next h =>
    subst h
    exact stands_short 't' '\t' (by decide) (by decide) (by decide)
  split
  · next h =>
    have hread := Stands.escaped (escape_hex h)
    rw [Char.ofNat_toNat] at hread
    have hhigh := utf8EncodeChar_ascii (toNat_hexDigit_lt (c.toNat / 16) (by omega))
    have hlow := utf8EncodeChar_ascii (toNat_hexDigit_lt (c.toNat % 16) (by omega))
    simp only [List.flatMap_cons, List.flatMap_nil, hhigh, hlow]
    exact hread
  · next hquote hslash _ _ _ _ _ hcontrol =>
    rw [List.flatMap_singleton]
    by_cases hc : c.toNat < 128
    · rw [utf8EncodeChar_ascii hc]
      refine .byte ?_ ?_ ?_
      · exact fun h => hquote (byte_inj hc (by decide) h)
      · exact fun h => hslash (byte_inj hc (by decide) h)
      · rw [UInt8.lt_iff_toNat_lt, toNat_byte hc]
        exact hcontrol
    · exact .bytes (le_toNat_of_mem_utf8EncodeChar (Nat.not_lt.1 hc))

def written (s : String) : List UInt8 := (s.toList.flatMap escapeChar).flatMap String.utf8EncodeChar

theorem quoted_eq_written (s : String) :
    (quoted s).flatMap String.utf8EncodeChar = byte '"' :: (written s ++ [byte '"']) := by
  have hquote : String.utf8EncodeChar '"' = [byte '"'] := utf8EncodeChar_ascii (by decide)
  simp only [quoted, List.flatMap_cons, List.flatMap_append, List.flatMap_nil, hquote]
  rfl

theorem stands_written (s : String) : Stands (written s) (utf8Bytes s) := by
  unfold written utf8Bytes
  induction s.toList with
  | nil => exact .nil
  | cons c cs ih =>
    rw [List.flatMap_cons, List.flatMap_append, List.flatMap_cons]
    exact (stands_escapeChar c).append ih

/-- A string is read up to its closing quote. -/
theorem text_written (s : String) (rest : List UInt8) :
    text (written s ++ byte '"' :: rest) = .ok (s, rest) := by
  obtain ⟨k, hk, hread⟩ := stands_written s
  have hclose : ∀ fuel, stringBytes (fuel + 1) (byte '"' :: rest) = .ok ([], rest) := by
    intro fuel
    rw [stringBytes, if_pos rfl]
  -- the fuel is a byte more than all that is left, so it is enough for the string and its quote
  have hfuel : (written s ++ byte '"' :: rest).length + 1 =
      (written s ++ byte '"' :: rest).length - k + 1 + k := by
    rw [List.length_append]
    omega
  have h := hread _ _ _ (hclose ((written s ++ byte '"' :: rest).length - k))
  rw [← hfuel, List.append_nil] at h
  rw [text, h]
  simp only [bind, Except.bind, utf8Bytes, utf8Chars?_flatMap_encode, String.ofList_toList]
  rfl

theorem textValue_written (s : String) (rest : List UInt8) :
    textValue (byte '"' :: (written s ++ byte '"' :: rest)) = .ok (s, rest) := by
  have hblank : dropBlanks (byte '"' :: (written s ++ byte '"' :: rest)) =
      byte '"' :: (written s ++ byte '"' :: rest) := List.dropWhile_cons_of_neg (by decide)
  rw [textValue, hblank]
  exact text_written s rest

end StorageCalls.Json
