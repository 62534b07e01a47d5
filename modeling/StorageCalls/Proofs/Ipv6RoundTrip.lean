import Mathlib.Data.List.TakeWhile
import StorageCalls.Proofs.Numerals
import StorageCalls.Url.Ipv6

namespace StorageCalls.Url.Ipv6

open Text

variable {c : Char} {cs digits rest : List Char} {n p room limit : Nat} {seen : Bool}
  {ds pieces ps : List Nat} {tokens : List (Option Nat)}

def isHex (c : Char) : Bool := (hexValue? c).isSome

def hexDigits (digits : List Char) : List Nat := digits.map fun c => (hexValue? c).getD 0

structure IsAddress (pieces : List Nat) : Prop where
  length : pieces.length = 8
  bound : ∀ p ∈ pieces, p < 65536

def isAddressChar (c : Char) : Bool := isHex c || c == ':' || c == '.'

theorem hexRun_append (hd : ∀ c ∈ digits, isHex c) (hlen : digits.length ≤ limit)
    (hrest : ∀ c ∈ rest.head?, isHex c = false) :
    hexRun limit (digits ++ rest) = (hexDigits digits, rest) := by
  induction digits generalizing limit with
  | nil =>
    cases limit with
    | zero => rfl
    | succ limit =>
      cases rest with
      | nil => rfl
      | cons c rest =>
        have hc : hexValue? c = none := by simpa [isHex] using hrest c rfl
        simp [hexRun, hc, hexDigits]
  | cons c digits ih =>
    cases limit with
    | zero => simp at hlen
    | succ limit =>
      obtain ⟨d, hc⟩ := Option.isSome_iff_exists.1 (hd c List.mem_cons_self)
      have hrun := ih (fun e he => hd e (List.mem_cons_of_mem _ he)) (Nat.le_of_succ_le_succ hlen)
      simp [hexRun, hc, hrun, hexDigits]

theorem eq_append_of_hexRun (h : hexRun limit cs = (ds, rest)) :
    ∃ digits, cs = digits ++ rest ∧ ds = hexDigits digits ∧ (∀ c ∈ digits, isHex c) ∧
      digits.length ≤ limit := by
  induction limit generalizing cs ds with
  | zero =>
    cases h
    exact ⟨[], rfl, rfl, by simp, Nat.le_refl _⟩
  | succ limit ih =>
    cases cs with
    | nil =>
      cases h
      exact ⟨[], rfl, rfl, by simp, Nat.zero_le _⟩
    | cons c cs =>
      simp only [hexRun] at h
      cases hc : hexValue? c with
      | none =>
        rw [hc] at h
        cases h
        exact ⟨[], rfl, rfl, by simp, Nat.zero_le _⟩
      | some d =>
        cases hrun : hexRun limit cs with
        | mk front back =>
          rw [hc, hrun] at h
          cases h
          obtain ⟨digits, hcs, hfront, hhex, hlen⟩ := ih hrun
          refine ⟨c :: digits, ?_, ?_, ?_, Nat.succ_le_succ hlen⟩
          · rw [List.cons_append, ← hcs]
          · simp [hexDigits, hc, hfront]
          · simpa [isHex, hc] using hhex

theorem ofDigits_hexDigits_lt (hd : ∀ c ∈ digits, isHex c) (hlen : digits.length ≤ 4) :
    ofDigits 16 (hexDigits digits) < 65536 := by
  have hsmall : ∀ d ∈ hexDigits digits, d < 16 := by
    intro d hmem
    obtain ⟨c, hc, rfl⟩ := List.mem_map.1 hmem
    obtain ⟨d, hvalue⟩ := Option.isSome_iff_exists.1 (hd c hc)
    rw [hvalue]
    exact lt_of_hexValue? hvalue
  calc ofDigits 16 (hexDigits digits) < Nat.pow 16 (hexDigits digits).length := ofDigits_lt hsmall
    _ ≤ Nat.pow 16 4 := Nat.pow_le_pow_right (by decide) (by simpa [hexDigits] using hlen)

theorem isAddressChar_of_isHex (h : isHex c) : isAddressChar c := by
  simp [isAddressChar, h]

theorem isAddressChar_of_isDigit (h : c.isDigit) : isAddressChar c := by
  apply isAddressChar_of_isHex
  simp only [Char.isDigit, Bool.and_eq_true, decide_eq_true_eq] at h
  simp [isHex, hexValue?, show '0' ≤ c ∧ c ≤ '9' from h]

theorem quadNumber?_eq_some (h : quadNumber? cs = some n) :
    n ≤ 255 ∧ ∀ c ∈ cs, isAddressChar c := by
  simp only [quadNumber?] at h
  split at h
  · cases h
  · next hform =>
    have hdigits : cs.all Char.isDigit := by
      by_contra hnot
      exact hform (.inr (.inl hnot))
    split at h
    · next hle =>
      cases h
      exact ⟨hle, fun c hc => isAddressChar_of_isDigit (List.all_eq_true.1 hdigits c hc)⟩
    · cases h

theorem mem_splitAtEach {p : Char → Bool} (hc : c ∈ cs) :
    p c ∨ ∃ piece ∈ splitAtEach p cs, c ∈ piece := by
  induction cs with
  | nil => cases hc
  | cons d cs ih =>
    simp only [splitAtEach]
    obtain rfl | hc := List.mem_cons.1 hc
    · by_cases hp : p c
      · exact .inl hp
      · refine .inr ?_
        rw [if_neg hp]
        split
        · exact ⟨[c], by simp⟩
        · exact ⟨_, List.mem_cons_self, List.mem_cons_self⟩
    · refine (ih hc).imp_right ?_
      rintro ⟨piece, hpiece, hmem⟩
      split
      · exact ⟨piece, List.mem_cons_of_mem _ hpiece, hmem⟩
      · split
        · next hnil =>
          rw [hnil] at hpiece
          cases hpiece
        · next first pieces hsplit =>
          rw [hsplit] at hpiece
          obtain rfl | hpiece := List.mem_cons.1 hpiece
          · exact ⟨_, List.mem_cons_self, List.mem_cons_of_mem _ hmem⟩
          · exact ⟨piece, List.mem_cons_of_mem _ hpiece, hmem⟩

/-- What may be read from a text: no more pieces than there is room for, each of sixteen bits. -/
structure Reads (room : Nat) (cs : List Char) (tokens : List (Option Nat)) : Prop where
  length : tokens.length ≤ room
  bound : ∀ p, some p ∈ tokens → p < 65536
  chars : ∀ c ∈ cs, isAddressChar c

theorem reads_quad (hroom : room ≠ 0) (h : quad? cs = some tokens) :
    Reads (room + 1) cs tokens := by
  unfold quad? at h
  split at h
  · next a b c d hsplit =>
    simp only [Option.bind_eq_bind, Option.bind_eq_some_iff, Option.pure_def,
      Option.some.injEq] at h
    obtain ⟨na, ha, nb, hb, nc, hc, nd, hd, rfl⟩ := h
    obtain ⟨hna, hca⟩ := quadNumber?_eq_some ha
    obtain ⟨hnb, hcb⟩ := quadNumber?_eq_some hb
    obtain ⟨hnc, hcc⟩ := quadNumber?_eq_some hc
    obtain ⟨hnd, hcd⟩ := quadNumber?_eq_some hd
    refine ⟨by simp; omega, ?_, fun e he => ?_⟩
    · simp only [List.mem_cons, Option.some.injEq, List.not_mem_nil, or_false]
      rintro p (rfl | rfl) <;> omega
    · obtain hdot | ⟨piece, hpiece, hmem⟩ := mem_splitAtEach (p := (· == '.')) he
      · rw [beq_iff_eq] at hdot
        rw [hdot]
        decide
      · rw [hsplit] at hpiece
        simp only [List.mem_cons, List.not_mem_nil, or_false] at hpiece
        obtain rfl | rfl | rfl | rfl := hpiece
        exacts [hca e hmem, hcb e hmem, hcc e hmem, hcd e hmem]
  · cases h

theorem Reads.cons {token : Option Nat} {front : List Char} (h : Reads room cs tokens)
    (htoken : ∀ p, token = some p → p < 65536) (hfront : ∀ c ∈ front, isAddressChar c) :
    Reads (room + 1) (front ++ cs) (token :: tokens) where
  length := Nat.succ_le_succ h.length
  bound p hp := (List.mem_cons.1 hp).elim (fun hp => htoken p hp.symm) (h.bound p)
  chars c hc := (List.mem_append.1 hc).elim (hfront c) (h.chars c)

theorem reads_of_readPieces (h : readPieces room seen cs = some tokens) : Reads room cs tokens := by
  induction room generalizing seen cs tokens with
  | zero =>
    cases cs with
    | nil =>
      cases h
      exact ⟨Nat.le_refl _, by simp, by simp⟩
    | cons c cs => cases h
  | succ room ih =>
    cases cs with
    | nil =>
      cases h
      exact ⟨Nat.zero_le _, by simp, by simp⟩
    | cons c cs =>
      have hcolon : ∀ d ∈ [':'], isAddressChar d := List.all_eq_true.1 (by decide)
      cases hrun : hexRun 4 (c :: cs) with
      | mk ds rest =>
        simp only [readPieces, hrun] at h
        split at h
        · next hc =>
          subst hc
          split at h
          · cases h
          · obtain ⟨tokens', hread, rfl⟩ := Option.map_eq_some_iff.1 h
            exact (ih hread).cons (by simp) hcolon
        · obtain ⟨digits, hcs, rfl, hhex, hlen⟩ := eq_append_of_hexRun hrun
          have hbound := ofDigits_hexDigits_lt hhex hlen
          have hdigits : ∀ d ∈ digits, isAddressChar d :=
            fun d hd => isAddressChar_of_isHex (hhex d hd)
          split at h
          · cases h
          · split at h
            · cases h
              rw [hcs]
              exact (Reads.mk (Nat.zero_le _) (by simp) (by simp)).cons
                (by rintro p ⟨⟩; exact hbound) hdigits
            · split at h
              · cases h
              · next hroom => exact reads_quad hroom h
            · cases h
            · next rest _ _ =>
              obtain ⟨tokens', hread, rfl⟩ := Option.map_eq_some_iff.1 h
              rw [hcs, ← List.singleton_append, ← List.append_assoc]
              refine (ih hread).cons (by rintro p ⟨⟩; exact hbound) fun d hd => ?_
              exact (List.mem_append.1 hd).elim (hdigits d) (hcolon d)
            · cases h

theorem isAddress_of_expand? (hlen : tokens.length ≤ 8) (hbound : ∀ p, some p ∈ tokens → p < 65536)
    (h : expand? tokens = some pieces) : IsAddress pieces := by
  have hsplit := List.takeWhile_append_dropWhile (p := Option.isSome) (l := tokens)
  have hbefore : ∀ p ∈ (tokens.takeWhile Option.isSome).filterMap id, p < 65536 := by
    intro p hp
    rw [List.mem_filterMap] at hp
    obtain ⟨token, htoken, rfl⟩ := hp
    exact hbound p ((List.takeWhile_sublist _).subset htoken)
  simp only [expand?] at h
  split at h
  · split at h
    · next height =>
      cases h
      exact ⟨height, hbefore⟩
    · cases h
  · next gap after hdrop =>
    cases h
    rw [hdrop] at hsplit
    have hafter : ∀ p ∈ after.filterMap id, p < 65536 := by
      intro p hp
      rw [List.mem_filterMap] at hp
      obtain ⟨token, htoken, rfl⟩ := hp
      exact hbound p (hsplit ▸ List.mem_append_right _ (List.mem_cons_of_mem _ htoken))
    constructor
    · have htotal := congrArg List.length hsplit
      have hb := List.length_filterMap_le id (tokens.takeWhile Option.isSome)
      have ha := List.length_filterMap_le id after
      simp only [List.length_append, List.length_cons, List.length_replicate] at htotal ⊢
      omega
    · intro p hp
      simp only [List.mem_append, List.mem_replicate] at hp
      obtain (hp | ⟨-, rfl⟩) | hp := hp
      exacts [hbefore p hp, by decide, hafter p hp]

theorem isAddress_of_ofChars? (h : ofChars? cs = some pieces) :
    IsAddress pieces ∧ ∀ c ∈ cs, isAddressChar c := by
  unfold ofChars? at h
  split at h
  · next rest =>
    obtain ⟨tokens, hread, hexpand⟩ := Option.bind_eq_some_iff.1 h
    have hreads : Reads 8 ([':', ':'] ++ rest) (none :: tokens) :=
      (reads_of_readPieces hread).cons (by simp) (List.all_eq_true.1 (by decide))
    exact ⟨isAddress_of_expand? hreads.length hreads.bound hexpand, hreads.chars⟩
  · cases h
  · obtain ⟨tokens, hread, hexpand⟩ := Option.bind_eq_some_iff.1 h
    have hreads := reads_of_readPieces hread
    exact ⟨isAddress_of_expand? hreads.length hreads.bound hexpand, hreads.chars⟩

theorem expand?_pieces (h : pieces.length = 8) : expand? (pieces.map some) = some pieces := by
  have htake : (pieces.map some).takeWhile Option.isSome = pieces.map some := by
    rw [List.takeWhile_eq_self_iff]
    simp
  have hdrop : (pieces.map some).dropWhile Option.isSome = [] := by
    rw [List.dropWhile_eq_nil_iff]
    simp
  simp [expand?, htake, hdrop, h]

theorem expand?_gap (before after : List Nat) :
    expand? (before.map some ++ none :: after.map some) =
      some (before ++ List.replicate (8 - before.length - after.length) 0 ++ after) := by
  have hall : ∀ token ∈ before.map some, token.isSome := by simp
  have htake : (before.map some ++ none :: after.map some).takeWhile Option.isSome =
      before.map some := by
    rw [List.takeWhile_append_of_pos hall]
    simp
  have hdrop : (before.map some ++ none :: after.map some).dropWhile Option.isSome =
      none :: after.map some := by
    rw [List.dropWhile_append_of_pos hall]
    simp
  simp [expand?, htake, hdrop]

theorem isHex_of_mem_pieceChars (h : c ∈ pieceChars p) : isHex c := by
  obtain ⟨d, hd, rfl⟩ := mem_toDigits (by decide) h
  rw [isHex, hexValue?_digitChar hd]
  rfl

theorem ne_colon_of_isHex (h : isHex c) : c ≠ ':' := by
  rintro rfl
  exact absurd h (by decide)

theorem ofDigits_pieceChars (p : Nat) : ofDigits 16 (hexDigits (pieceChars p)) = p :=
  ofDigits_toDigits (by decide) fun d hd => by rw [hexValue?_digitChar hd]; rfl

theorem hexRun_pieceChars (hp : p < 65536) (hrest : ∀ c ∈ rest.head?, isHex c = false) :
    hexRun 4 (pieceChars p ++ rest) = (hexDigits (pieceChars p), rest) :=
  hexRun_append (fun _ => isHex_of_mem_pieceChars)
    ((Nat.length_toDigits_le_iff (by decide) (by decide)).2 hp) hrest

theorem hexDigits_pieceChars_ne_nil (p : Nat) : hexDigits (pieceChars p) ≠ [] := by
  simp [hexDigits, pieceChars, Nat.toDigits_ne_nil]

theorem readPieces_piece (hp : p < 65536) (room : Nat) (seen : Bool) :
    readPieces (room + 1) seen (pieceChars p) = some [some p] := by
  have hrun : hexRun 4 (pieceChars p ++ []) = (hexDigits (pieceChars p), []) :=
    hexRun_pieceChars hp (by simp)
  rw [List.append_nil] at hrun
  have hvalue := ofDigits_pieceChars p
  have hne := hexDigits_pieceChars_ne_nil p
  cases hcs : pieceChars p with
  | nil => exact absurd hcs Nat.toDigits_ne_nil
  | cons c cs =>
    have hc : c ≠ ':' := ne_colon_of_isHex (isHex_of_mem_pieceChars (hcs ▸ List.mem_cons_self))
    rw [hcs] at hrun hvalue hne
    simp [readPieces, hc, hrun, hne, hvalue]

theorem readPieces_cons (hp : p < 65536) (hcs : cs ≠ []) (room : Nat) (seen : Bool) :
    readPieces (room + 1) seen (pieceChars p ++ ':' :: cs) =
      (readPieces room seen cs).map (some p :: ·) := by
  have hrun : hexRun 4 (pieceChars p ++ ':' :: cs) = (hexDigits (pieceChars p), ':' :: cs) :=
    hexRun_pieceChars hp (by simp; decide)
  have hvalue := ofDigits_pieceChars p
  have hne := hexDigits_pieceChars_ne_nil p
  cases hpiece : pieceChars p with
  | nil => exact absurd hpiece Nat.toDigits_ne_nil
  | cons c front =>
    have hc : c ≠ ':' := ne_colon_of_isHex (isHex_of_mem_pieceChars (hpiece ▸ List.mem_cons_self))
    rw [hpiece] at hrun hvalue hne
    rw [List.cons_append] at hrun ⊢
    obtain ⟨d, tail, rfl⟩ := List.exists_cons_of_ne_nil hcs
    simp [readPieces, hc, hrun, hne, hvalue]

def terminated (ps : List Nat) : List Char := ps.flatMap fun p => pieceChars p ++ [':']

def written (ps : List Nat) : List Char := joinWith [':'] (ps.map pieceChars)

theorem written_concat (ps : List Nat) (p : Nat) :
    written (ps ++ [p]) = terminated ps ++ pieceChars p := by
  induction ps with
  | nil => rfl
  | cons q ps ih =>
    have hjoin : written (q :: ps ++ [p]) = pieceChars q ++ [':'] ++ written (ps ++ [p]) := by
      cases ps <;> rfl
    rw [hjoin, ih]
    simp [terminated]

theorem readPieces_terminated (hps : ∀ p ∈ ps, p < 65536) (hcs : cs ≠ []) (room : Nat)
    (seen : Bool) :
    readPieces (room + ps.length) seen (terminated ps ++ cs) =
      (readPieces room seen cs).map (ps.map some ++ ·) := by
  induction ps with
  | nil => simp [terminated]
  | cons p ps ih =>
    have hrest : terminated ps ++ cs ≠ [] := by simp [hcs]
    have htext : terminated (p :: ps) ++ cs = pieceChars p ++ ':' :: (terminated ps ++ cs) := by
      simp [terminated]
    rw [htext, List.length_cons, ← Nat.add_assoc, readPieces_cons (hps p List.mem_cons_self) hrest,
      ih fun q hq => hps q (List.mem_cons_of_mem _ hq), Option.map_map]
    rfl

theorem readPieces_written (hps : ∀ p ∈ ps, p < 65536) (hroom : ps.length ≤ room) (seen : Bool) :
    readPieces room seen (written ps) = some (ps.map some) := by
  obtain rfl | ⟨front, p, rfl⟩ := ps.eq_nil_or_concat
  · cases room <;> rfl
  · rw [List.concat_eq_append] at hps hroom ⊢
    have hfront : ∀ q ∈ front, q < 65536 := fun q hq => hps q (List.mem_append_left _ hq)
    have hp : p < 65536 := hps p (by simp)
    have hne : pieceChars p ≠ [] := Nat.toDigits_ne_nil
    obtain ⟨spare, rfl⟩ : ∃ spare, room = spare + 1 + front.length :=
      ⟨room - front.length - 1, by simp at hroom; omega⟩
    rw [written_concat, readPieces_terminated hfront hne, readPieces_piece hp]
    simp

theorem readPieces_gap {before after : List Nat} (hb : ∀ p ∈ before, p < 65536)
    (ha : ∀ p ∈ after, p < 65536) (hne : before ≠ [])
    (hlen : before.length + after.length < room) :
    readPieces room false (written before ++ [':', ':'] ++ written after) =
      some (before.map some ++ none :: after.map some) := by
  have htext : written before ++ [':', ':'] ++ written after =
      terminated before ++ ':' :: written after := by
    obtain rfl | ⟨front, p, rfl⟩ := before.eq_nil_or_concat
    · exact absurd rfl hne
    · rw [List.concat_eq_append, written_concat]
      simp [terminated]
  obtain ⟨spare, rfl⟩ : ∃ spare, room = spare + 1 + before.length :=
    ⟨room - before.length - 1, by omega⟩
  have hafter : readPieces spare true (written after) = some (after.map some) :=
    readPieces_written ha (by omega) true
  rw [htext, readPieces_terminated hb (by simp)]
  simp [readPieces, hafter]

theorem longestZeros_le (pieces : List Nat) :
    (longestZeros pieces).2 ≤ zerosAt pieces (longestZeros pieces).1 := by
  -- each candidate that is taken over is the run where it starts
  unfold longestZeros
  refine List.foldlRecOn (motive := fun best : Nat × Nat => best.2 ≤ zerosAt pieces best.1) _ _
    (Nat.zero_le _) fun best hbest i _ => ?_
  split
  · exact Nat.le_refl _
  · exact hbest

theorem eq_append_zeros {start length : Nat} (h : length ≤ zerosAt pieces start) :
    pieces = pieces.take start ++ List.replicate length 0 ++ pieces.drop (start + length) := by
  have hzeros : (pieces.drop start).take length = List.replicate length 0 := by
    rw [List.eq_replicate_iff]
    have htake := List.takeWhile_append_dropWhile (p := (· == 0)) (l := pieces.drop start)
    rw [← htake, List.take_append_of_le_length h]
    refine ⟨List.length_take_of_le h, fun p hp => ?_⟩
    have hp : p ∈ (pieces.drop start).takeWhile (· == 0) := List.mem_of_mem_take hp
    simpa using List.mem_takeWhile_imp hp
  rw [← hzeros, List.append_assoc, ← List.drop_drop, List.take_append_drop,
    List.take_append_drop]

theorem ofChars?_of_isHex (hc : isHex c) :
    ofChars? (c :: cs) = (readPieces 8 false (c :: cs)).bind expand? := by
  have hne := ne_colon_of_isHex hc
  unfold ofChars?
  split
  · next h => exact absurd (List.cons.inj h).1 hne
  · next h => exact absurd (List.cons.inj h).1 hne
  · rfl

theorem exists_written_cons (hne : ps ≠ []) : ∃ c cs, written ps = c :: cs ∧ isHex c := by
  obtain ⟨p, ps, rfl⟩ := List.exists_cons_of_ne_nil hne
  obtain ⟨c, cs, hpiece⟩ := List.exists_cons_of_ne_nil (Nat.toDigits_ne_nil (n := p) (b := 16))
  have hc : isHex c := isHex_of_mem_pieceChars (p := p) (by rw [pieceChars, hpiece]; simp)
  obtain ⟨rest, hwritten⟩ : ∃ rest, written (p :: ps) = pieceChars p ++ rest := by
    cases ps with
    | nil => exact ⟨[], (List.append_nil _).symm⟩
    | cons q ps => exact ⟨_, List.append_assoc _ _ _⟩
  exact ⟨c, cs ++ rest, by rw [hwritten, pieceChars, hpiece, List.cons_append], hc⟩

theorem ofChars?_written (h : IsAddress pieces) : ofChars? (written pieces) = some pieces := by
  have hlength := h.length
  have hread : readPieces 8 false (written pieces) = some (pieces.map some) :=
    readPieces_written h.bound (Nat.le_of_eq hlength) false
  have hne : pieces ≠ [] := by
    rintro rfl
    cases hlength
  obtain ⟨c, cs, hwritten, hc⟩ := exists_written_cons hne
  rw [hwritten] at hread ⊢
  rw [ofChars?_of_isHex hc, hread]
  exact expand?_pieces hlength

theorem ofChars?_gap (before after : List Nat) (hb : ∀ p ∈ before, p < 65536)
    (ha : ∀ p ∈ after, p < 65536) (hlen : before.length + after.length < 8) :
    ofChars? (written before ++ [':', ':'] ++ written after) =
      some (before ++ List.replicate (8 - before.length - after.length) 0 ++ after) := by
  rw [← expand?_gap]
  by_cases hne : before = []
  · subst hne
    have hread : readPieces 7 true (written after) = some (after.map some) :=
      readPieces_written ha (by simp at hlen; omega) true
    exact congrArg (Option.bind · fun tokens => expand? (none :: tokens)) hread
  · have hread := readPieces_gap hb ha hne hlen
    obtain ⟨c, cs, hwritten, hc⟩ := exists_written_cons hne
    rw [hwritten, List.cons_append, List.cons_append] at hread ⊢
    rw [ofChars?_of_isHex hc, hread]
    rfl

/-- Whatever is written for an address reads as that address. -/
theorem ofChars?_toChars (h : IsAddress pieces) : ofChars? (toChars pieces) = some pieces := by
  have hle := longestZeros_le pieces
  cases hlongest : longestZeros pieces with
  | mk start length =>
    rw [hlongest] at hle
    simp only [toChars, hlongest]
    split
    · exact ofChars?_written h
    · next hlength =>
      have hsplit := eq_append_zeros hle
      have htotal := congrArg List.length hsplit
      simp only [List.length_append, List.length_replicate] at htotal
      rw [h.length] at htotal
      have hgap := ofChars?_gap (pieces.take start) (pieces.drop (start + length))
        (fun p hp => h.bound p (List.mem_of_mem_take hp))
        (fun p hp => h.bound p (List.mem_of_mem_drop hp)) (by omega)
      have hzeros : 8 - (pieces.take start).length - (pieces.drop (start + length)).length =
          length := by omega
      rw [hzeros, ← hsplit] at hgap
      exact hgap

end StorageCalls.Url.Ipv6
