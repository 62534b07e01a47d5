import StorageCalls.Base64

namespace StorageCalls.Base64

open StorageCalls.Text

theorem value?_symbol : ∀ n < 64, value? (symbol n) = some n := by decide

theorem symbol_ne_pad : ∀ n < 64, symbol n ≠ pad := by decide

theorem toNat_symbol_lt (n : Nat) : (symbol n).toNat < 128 := by
  simp only [symbol, UInt8.toNat_ofNat']
  repeat' split
  all_goals omega

theorem values_symbols (offset : Nat) (ns : List Nat) (h : ∀ n ∈ ns, n < 64) :
    values offset (ns.map symbol) = .ok ns := by
  induction ns generalizing offset with
  | nil => rfl
  | cons n ns ih =>
    rw [List.map_cons, values, value?_symbol n (h n List.mem_cons_self)]
    simp only [ih (offset + 1) fun m hm => h m (List.mem_cons_of_mem _ hm)]
    rfl

theorem bytesOf_parts {n : Nat} (h : n < 16777216) :
    bytesOf (n / 262144) (n / 4096 % 64) (n / 64 % 64) (n % 64) =
      [UInt8.ofNat (n / 65536), UInt8.ofNat (n / 256), UInt8.ofNat n] := by
  have hn : ((n / 262144 * 64 + n / 4096 % 64) * 64 + n / 64 % 64) * 64 + n % 64 = n := by omega
  rw [bytesOf, hn]

theorem ofNat_eq_of_mod {n : Nat} {b : UInt8} (h : n % 256 = b.toNat) : UInt8.ofNat n = b := by
  rw [← UInt8.toNat_inj, UInt8.toNat_ofNat', h]

theorem bytes_of_number (a b c : UInt8) :
    let n := (a.toNat * 256 + b.toNat) * 256 + c.toNat
    n < 16777216 ∧ UInt8.ofNat (n / 65536) = a ∧ UInt8.ofNat (n / 256) = b ∧ UInt8.ofNat n = c := by
  intro n
  have ha := a.toNat_lt
  have hb := b.toNat_lt
  have hc := c.toNat_lt
  refine ⟨by omega, ofNat_eq_of_mod ?_, ofNat_eq_of_mod ?_, ofNat_eq_of_mod ?_⟩ <;> omega

theorem decodeLast_symbols (offset : Nat) (ns : List Nat) (k : Nat) (h : ∀ n ∈ ns, n < 64)
    (hlen : 2 ≤ ns.length) (hk : (ns.length + k) % 4 = 0) :
    decodeLast offset (ns.map symbol ++ List.replicate k pad) =
      lastBytes offset (ns.map symbol) ns := by
  have hbody : ∀ b ∈ ns.map symbol, (b != pad) = true := by
    intro b hb
    obtain ⟨n, hn, rfl⟩ := List.mem_map.1 hb
    simpa using symbol_ne_pad n (h n hn)
  have htake : (List.replicate k pad).takeWhile (· != pad) = [] := by
    cases k <;> simp [List.replicate_succ]
  have hdrop : (List.replicate k pad).dropWhile (· != pad) = List.replicate k pad := by
    cases k <;> simp [List.replicate_succ]
  have hpads : (List.replicate k pad).any (· != pad) = false := by simp
  simp only [decodeLast, List.takeWhile_append_of_pos hbody, List.dropWhile_append_of_pos hbody,
    htake, hdrop, List.append_nil, values_symbols offset ns h, List.length_map,
    Nat.not_lt.2 hlen, hpads, List.length_append, List.length_replicate, hk]
  simp
  rfl

theorem length_encodeBytes (bytes : List UInt8) : (encodeBytes bytes).length % 4 = 0 := by
  induction bytes using encodeBytes.induct with
  | case1 => rfl
  | case2 a => simp [encodeBytes]
  | case3 a b => simp [encodeBytes]
  | case4 a b c rest ih =>
    simp only [encodeBytes, List.length_cons]
    omega

theorem encodeBytes_cons_ne_nil (a : UInt8) (rest : List UInt8) : encodeBytes (a :: rest) ≠ [] := by
  match rest with
  | [] => simp [encodeBytes]
  | [b] => simp [encodeBytes]
  | b :: c :: rest => simp [encodeBytes]

theorem ascii_encodeBytes (bytes : List UInt8) : ∀ b ∈ encodeBytes bytes, b.toNat < 128 := by
  have hpad : pad.toNat < 128 := by decide
  induction bytes using encodeBytes.induct with
  | case1 => simp [encodeBytes]
  | case2 a => simp [encodeBytes, toNat_symbol_lt, hpad]
  | case3 a b => simp [encodeBytes, toNat_symbol_lt, hpad]
  | case4 a b c rest ih => simpa [encodeBytes, toNat_symbol_lt] using ih

theorem decodeGroups_group (offset a b c d : Nat) (rest : List UInt8) (hrest : rest ≠ [])
    (h : ∀ n ∈ [a, b, c, d], n < 64) :
    decodeGroups offset (symbol a :: symbol b :: symbol c :: symbol d :: rest) =
      (decodeGroups (offset + 4) rest).map (bytesOf a b c d ++ ·) := by
  obtain ⟨e, rest, rfl⟩ := List.exists_cons_of_ne_nil hrest
  have hv := values_symbols offset [a, b, c, d] h
  simp only [List.map_cons, List.map_nil] at hv
  rw [decodeGroups, hv]
  rfl

theorem decodeGroups_one (offset : Nat) (a : UInt8) :
    decodeGroups offset (encodeBytes [a]) = .ok [a] := by
  have ha := a.toNat_lt
  have hsplit : ∀ n ∈ [a.toNat * 16 / 64, a.toNat * 16 % 64], n < 64 := by
    simp only [List.mem_cons, List.not_mem_nil, or_false]
    omega
  have h := decodeLast_symbols offset _ 2 hsplit (by simp) (by simp)
  have hzero : a.toNat * 16 % 64 % 16 = 0 := by omega
  have hbyte : UInt8.ofNat
      ((((a.toNat * 16 / 64 * 64 + a.toNat * 16 % 64) * 64 + 0) * 64 + 0) / 65536) = a :=
    ofNat_eq_of_mod (by omega)
  rw [encodeBytes]
  change decodeLast offset _ = _
  rw [lastBytes, if_pos hzero, bytesOf, hbyte] at h
  exact h

theorem decodeGroups_two (offset : Nat) (a b : UInt8) :
    decodeGroups offset (encodeBytes [a, b]) = .ok [a, b] := by
  have ha := a.toNat_lt
  have hb := b.toNat_lt
  generalize hn : (a.toNat * 256 + b.toNat) * 4 = n
  have hsplit : ∀ m ∈ [n / 4096, n / 64 % 64, n % 64], m < 64 := by
    simp only [List.mem_cons, List.not_mem_nil, or_false]
    omega
  have h := decodeLast_symbols offset _ 1 hsplit (by simp) (by simp)
  have hzero : n % 64 % 4 = 0 := by omega
  have hfirst : UInt8.ofNat
      ((((n / 4096 * 64 + n / 64 % 64) * 64 + n % 64) * 64 + 0) / 65536) = a :=
    ofNat_eq_of_mod (by omega)
  have hsecond : UInt8.ofNat
      ((((n / 4096 * 64 + n / 64 % 64) * 64 + n % 64) * 64 + 0) / 256) = b :=
    ofNat_eq_of_mod (by omega)
  rw [encodeBytes, hn]
  change decodeLast offset _ = _
  rw [lastBytes, if_pos hzero, bytesOf, hfirst, hsecond] at h
  exact h

theorem decodeGroups_encodeBytes (offset : Nat) (bytes : List UInt8) :
    decodeGroups offset (encodeBytes bytes) = .ok bytes := by
  induction bytes using encodeBytes.induct generalizing offset with
  | case1 => rfl
  | case2 a => exact decodeGroups_one offset a
  | case3 a b => exact decodeGroups_two offset a b
  | case4 a b c rest ih =>
    obtain ⟨hn, ha, hb, hc⟩ := bytes_of_number a b c
    generalize hnum : (a.toNat * 256 + b.toNat) * 256 + c.toNat = n at hn ha hb hc
    have hsplit : ∀ m ∈ [n / 262144, n / 4096 % 64, n / 64 % 64, n % 64], m < 64 := by
      simp only [List.mem_cons, List.not_mem_nil, or_false]
      omega
    have hparts := bytesOf_parts hn
    rw [ha, hb, hc] at hparts
    simp only [encodeBytes, hnum]
    -- a group that nothing follows is read as one that may have padding
    cases rest with
    | nil =>
      have h := decodeLast_symbols offset _ 0 hsplit (by simp) (by simp)
      rw [lastBytes, hparts] at h
      exact h
    | cons d rest =>
      rw [decodeGroups_group offset _ _ _ _ _ (encodeBytes_cons_ne_nil d rest) hsplit, ih, hparts]
      rfl

theorem utf8Bytes_ofList_ascii (bytes : List UInt8) (h : ∀ b ∈ bytes, b.toNat < 128) :
    utf8Bytes (String.ofList (bytes.map fun b => Char.ofNat b.toNat)) = bytes := by
  rw [utf8Bytes, String.toList_ofList, List.flatMap_map]
  induction bytes with
  | nil => rfl
  | cons b bytes ih =>
    have hb := h b List.mem_cons_self
    have hchar : (Char.ofNat b.toNat).val.toNat = b.toNat := by
      rw [Char.ofNat, dif_pos (.inl (by omega))]
      rfl
    have hone : String.utf8EncodeChar (Char.ofNat b.toNat) = [b] := by
      rw [String.utf8EncodeChar, hchar, if_pos (by omega), UInt8.ofNat_toNat]
    rw [List.flatMap_cons, hone, ih fun x hx => h x (List.mem_cons_of_mem _ hx)]
    rfl

/-- Bytes come back from their text. -/
theorem decode_encode (bytes : List UInt8) : decode (encode bytes) = .ok bytes := by
  rw [decode, encode, utf8Bytes_ofList_ascii _ (ascii_encodeBytes bytes), decodeBytes]
  split
  · next h =>
    rw [List.getLast?_eq_none_iff] at h
    have hgroups := decodeGroups_encodeBytes 0 bytes
    rw [h] at hgroups
    exact hgroups
  · have hlen := length_encodeBytes bytes
    rw [if_neg (by omega)]
    exact decodeGroups_encodeBytes 0 bytes

end StorageCalls.Base64
