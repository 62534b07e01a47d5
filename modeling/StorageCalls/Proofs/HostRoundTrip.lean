import StorageCalls.Proofs.Ipv6RoundTrip
import StorageCalls.Url.Parse

namespace StorageCalls.Url

open Text

variable {c d : Char} {cs text inner rest : List Char} {bracket : Bool} {pieces : List Nat}
  {host : Host}

def isPrintable (c : Char) : Bool := 0x20 ≤ c.toNat && c.toNat < 0x7f

theorem encodeChar_of_isPrintable (h : isPrintable c) : encodeChar c = [c] := by
  simp only [isPrintable, Bool.and_eq_true, decide_eq_true_eq] at h
  rw [encodeChar, if_pos h]

theorem percentEncode_eq_self (h : ∀ c ∈ cs, isPrintable c) : percentEncode cs = cs := by
  induction cs with
  | nil => rfl
  | cons c cs ih =>
    rw [percentEncode, List.flatMap_cons, encodeChar_of_isPrintable (h c List.mem_cons_self)]
    exact congrArg (c :: ·) (ih fun d hd => h d (List.mem_cons_of_mem _ hd))

theorem mem_encodeChar (h : d ∈ encodeChar c) :
    (d = c ∧ isPrintable c) ∨ d = '%' ∨ ∃ n < 16, d = (hexDigit n).toUpper := by
  unfold encodeChar at h
  split at h
  · next hc => exact .inl ⟨List.mem_singleton.1 h, by simpa [isPrintable] using hc⟩
  · obtain ⟨b, -, hd⟩ := List.mem_flatMap.1 h
    have hb : b.toNat < 256 := b.toNat_lt
    simp only [hexOfByte, List.map_cons, List.map_nil, List.mem_cons, List.not_mem_nil,
      or_false] at hd
    obtain rfl | rfl | rfl := hd
    · exact .inr (.inl rfl)
    · exact .inr (.inr ⟨_, by omega, rfl⟩)
    · exact .inr (.inr ⟨_, by omega, rfl⟩)

theorem isPrintable_hexDigit : ∀ n < 16,
    isPrintable (hexDigit n).toUpper ∧ Host.isForbidden (hexDigit n).toUpper = false := by
  decide

theorem mem_percentEncode (h : ∀ c ∈ cs, Host.isForbidden c = false) :
    ∀ c ∈ percentEncode cs, isPrintable c ∧ Host.isForbidden c = false := by
  intro d hd
  obtain ⟨c, hc, hd⟩ := List.mem_flatMap.1 hd
  obtain ⟨rfl, hprintable⟩ | rfl | ⟨n, hn, rfl⟩ := mem_encodeChar hd
  · exact ⟨hprintable, h d hc⟩
  · decide
  · exact isPrintable_hexDigit n hn

namespace Host

theorem ne_of_not_isForbidden (hc : isForbidden c = false) (hd : isForbidden d) : c ≠ d :=
  ne_of_apply_ne isForbidden (by rw [hc, hd]; decide)

theorem ofNameChars?_name (h : ∀ c ∈ text, isForbidden c = false) :
    ofNameChars? text = .ok (.name (percentEncode text)) := by
  have hany : text.any isForbidden = false := by simpa using h
  unfold ofNameChars?
  split
  · next rest => exact absurd rfl (ne_of_not_isForbidden (h '[' List.mem_cons_self) (by decide))
  · rw [hany]
    rfl

theorem ofNameChars?_bracketed (h : Ipv6.ofChars? inner = some pieces) :
    ofNameChars? ('[' :: inner ++ [']']) = .ok (.ipv6 pieces) := by
  have hend : endsWith ('[' :: (inner ++ [']'])) ']' := by
    rw [endsWith, ← List.cons_append, List.getLast?_concat]
    rfl
  simp [ofNameChars?, bracketed?, hend, h]

theorem ofNameChars?_eq_ok (h : ofNameChars? text = .ok host) :
    (∃ inner pieces, text = '[' :: inner ++ [']'] ∧ Ipv6.ofChars? inner = some pieces ∧
      host = .ipv6 pieces) ∨
    ((∀ c ∈ text, isForbidden c = false) ∧ host = .name (percentEncode text)) := by
  unfold ofNameChars? at h
  split at h
  · next rest =>
    refine .inl ?_
    unfold bracketed? at h
    split at h
    · next hend =>
      obtain rfl | ⟨inner, last, rfl⟩ := rest.eq_nil_or_concat
      · exact absurd hend (by decide)
      · rw [List.concat_eq_append] at h hend ⊢
        have hlast : last = ']' := by
          rw [endsWith, ← List.cons_append, List.getLast?_concat] at hend
          simpa using hend
        rw [hlast, List.drop_one, List.tail_cons, List.dropLast_concat] at h
        cases hpieces : Ipv6.ofChars? inner with
        | none =>
          rw [hpieces] at h
          cases h
        | some pieces =>
          rw [hpieces] at h
          cases h
          exact ⟨inner, pieces, by rw [hlast, List.cons_append], hpieces, rfl⟩
    · cases h
  · split at h
    · cases h
    · next hany =>
      cases h
      exact .inr ⟨by simpa using hany, rfl⟩

/-- What is written for a host reads as that host. -/
theorem ofNameChars?_toChars (h : ofNameChars? text = .ok host) :
    ofNameChars? host.toChars = .ok host := by
  obtain ⟨inner, pieces, rfl, hpieces, rfl⟩ | ⟨htext, rfl⟩ := ofNameChars?_eq_ok h
  · have haddress := (Ipv6.isAddress_of_ofChars? hpieces).1
    exact ofNameChars?_bracketed (Ipv6.ofChars?_toChars haddress)
  · have hencoded := mem_percentEncode htext
    have hname := ofNameChars?_name fun c hc => (hencoded c hc).2
    rwa [percentEncode_eq_self fun c hc => (hencoded c hc).1] at hname

theorem toChars_ne_nil (h : ofNameChars? text = .ok host) (hne : host ≠ .name []) :
    host.toChars ≠ [] := by
  obtain ⟨inner, pieces, rfl, -, rfl⟩ | ⟨-, rfl⟩ := ofNameChars?_eq_ok h
  · simp [toChars]
  · intro hnil
    exact hne (congrArg name hnil)

end Host

def isAuthorityEnd (c : Char) : Bool := c == '/' || c == '?' || c == '#'

/-- A character that keeps its meaning wherever in an authority it stands. -/
def isInert (c : Char) : Bool := !isAuthorityEnd c && !isTabOrNewline c && c != '@'

theorem isInert_of_apart (p : Char → Bool) (hc : p c)
    (hp : ['/', '?', '#', '\t', '\n', '\r', '@'].all (!p ·)) : isInert c := by
  have hne : ∀ d ∈ ['/', '?', '#', '\t', '\n', '\r', '@'], c ≠ d := by
    rintro d hd rfl
    have hnot := List.all_eq_true.1 hp c hd
    rw [hc] at hnot
    cases hnot
  simpa [isInert, isAuthorityEnd, isTabOrNewline, and_assoc] using hne

theorem splitHost_append
    (h : ∀ c ∈ text, c ≠ '[' ∧ c ≠ ']' ∧ (c = ':' → bracket = true)) (rest : List Char) :
    splitHost bracket (text ++ rest) =
      (text ++ (splitHost bracket rest).1, (splitHost bracket rest).2) := by
  induction text with
  | nil => rfl
  | cons c text ih =>
    obtain ⟨hopen, hclose, hcolon⟩ := h c List.mem_cons_self
    have hrest := ih fun d hd => h d (List.mem_cons_of_mem _ hd)
    simpa [splitHost, hopen, hclose, hrest] using hcolon

/-- The text of a host: nothing in it is taken for the end of the host, or is left out. -/
structure IsHostText (text : List Char) : Prop where
  inert : ∀ c ∈ text, isInert c
  split : ∀ rest, splitHost false (text ++ ':' :: rest) = (text, ':' :: rest)

theorem isHostText_of_ofNameChars? (h : Host.ofNameChars? text = .ok host) : IsHostText text := by
  obtain ⟨inner, pieces, rfl, hpieces, -⟩ | ⟨htext, -⟩ := Host.ofNameChars?_eq_ok h
  · have hchars := (Ipv6.isAddress_of_ofChars? hpieces).2
    constructor
    · intro c hc
      simp only [List.cons_append, List.mem_cons, List.mem_append, List.not_mem_nil,
        or_false] at hc
      obtain rfl | hc | rfl := hc
      · decide
      · exact isInert_of_apart Ipv6.isAddressChar (hchars c hc) (by decide)
      · decide
    · intro rest
      -- all colons stand between the brackets
      have hne : ∀ c ∈ inner, ∀ d, Ipv6.isAddressChar d = false → c ≠ d := fun c hc d hd =>
        ne_of_apply_ne Ipv6.isAddressChar (by rw [hchars c hc, hd]; decide)
      have hpass : ∀ c ∈ inner, c ≠ '[' ∧ c ≠ ']' ∧ (c = ':' → true = true) := fun c hc =>
        ⟨hne c hc _ (by decide), hne c hc _ (by decide), fun _ => rfl⟩
      have hinner := splitHost_append hpass (']' :: ':' :: rest)
      simp [splitHost, hinner]
  · constructor
    · exact fun c hc =>
        isInert_of_apart (!Host.isForbidden ·) (by simp [htext c hc]) (by decide)
    · intro rest
      have hne : ∀ c ∈ text, ∀ d, Host.isForbidden d → c ≠ d := fun c hc d =>
        Host.ne_of_not_isForbidden (htext c hc)
      rw [splitHost_append fun c hc => ⟨hne c hc _ (by decide), hne c hc _ (by decide),
        fun hcolon => absurd hcolon (hne c hc _ (by decide))⟩]
      simp [splitHost]

end StorageCalls.Url
