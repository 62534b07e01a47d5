import StorageCalls.Proofs.NetworkAuthority
import StorageCalls.Proofs.UrlText

namespace StorageCalls

namespace Url

open Text

variable {c : Char} {tail user : List Char}

/-- A path, a query or a fragment, or nothing. -/
def IsDecoration (tail : List Char) : Prop := ∀ c ∈ tail.head?, isAuthorityEnd c

theorem isBlank_of_isDigit (h : c.isDigit) :
    isBlank c = false ∧ isControlOrSpace c = false := by
  simp only [Char.isDigit, Bool.and_eq_true, decide_eq_true_eq] at h
  have hlow : 48 ≤ c.toNat := h.1
  have hhigh : c.toNat ≤ 57 := h.2
  constructor
  · simp only [isBlank, Bool.or_eq_false_iff, Bool.and_eq_false_iff, decide_eq_false_iff_not,
      beq_eq_false_iff_ne]
    omega
  · simp only [isControlOrSpace, decide_eq_false_iff_not]
    omega

theorem kept_of_isAuthorityEnd (h : isAuthorityEnd c) :
    isBlank c = false ∧ isControlOrSpace c = false ∧ isPortEnd c := by
  simp only [isAuthorityEnd, Bool.or_eq_true, beq_iff_eq] at h
  obtain (rfl | rfl) | rfl := h <;> decide

theorem IsDecoration.isTail (h : IsDecoration tail) : IsTail tail := by
  cases tail with
  | nil => exact ⟨by simp, by simp⟩
  | cons c tail =>
    have hc : isAuthorityEnd c := h c rfl
    refine ⟨fun d hd => ?_, ?_⟩
    · cases hd
      exact (kept_of_isAuthorityEnd hc).2.2
    · rw [List.takeWhile_cons_of_neg (by simp [hc])]
      simp

theorem IsDecoration.trimmed (h : IsDecoration tail) :
    IsDecoration (dropEndWhile isBlank tail) := by
  cases tail with
  | nil => exact h
  | cons c tail =>
    have hc : isAuthorityEnd c := h c rfl
    rw [dropEndWhile_cons (kept_of_isAuthorityEnd hc).1]
    exact h

theorem IsDecoration.cleaned (h : IsDecoration tail) : IsDecoration (cleanBack tail) := by
  cases tail with
  | nil => exact h
  | cons c tail =>
    have hc : isAuthorityEnd c := h c rfl
    have hkept := (kept_of_isAuthorityEnd hc).2.1
    rw [cleanBack, dropEndWhile_cons hkept,
      List.filter_cons_of_pos (by simp [not_isTabOrNewline hkept])]
    exact h

theorem IsUser.cleaned (h : IsUser user) : IsUser (user.filter (!isTabOrNewline ·)) := by
  obtain rfl | ⟨name, rfl, hname⟩ := h
  · exact .inl rfl
  · have hkept : ∀ c ∈ name.filter (!isTabOrNewline ·), isAuthorityEnd c = false :=
      fun c hc => hname c (List.mem_of_mem_filter hc)
    refine .inr ⟨_, ?_, hkept⟩
    rw [List.filter_append]
    rfl

end Url

namespace StorageAddress

open Url Text

variable {scheme : AddressScheme} {user text digits tail hostPort : List Char} {host : Host}
  {port : Nat} {address : String} {a : StorageAddress}

def spell (scheme : AddressScheme) (user hostPort tail : List Char) : String :=
  String.ofList (scheme.name.toList ++ "://".toList ++ user ++ hostPort ++ tail)

def dialed (host : Host) (port : Nat) : List Char := host.toChars ++ ':' :: Nat.toDigits 10 port

theorem target?_network (hs : scheme ≠ .unix) {raw target : String} {url : Url} :
    target? raw url scheme = some target ↔
      ∃ host port, url.host = some host ∧ url.port = some port ∧
        target = String.ofList (dialed host port) := by
  have hnetwork : target? raw url scheme = url.host.bind fun host => url.port.bind fun port =>
      some (String.ofList (dialed host port)) := by
    cases scheme with
    | unix => exact absurd rfl hs
    | tcp => rfl
    | tls => rfl
  rw [hnetwork]
  simp only [Option.bind_eq_some_iff, Option.some.injEq]
  constructor
  · rintro ⟨host, hhost, port, hport, rfl⟩
    exact ⟨host, port, hhost, hport, rfl⟩
  · rintro ⟨host, port, hhost, hport, rfl⟩
    exact ⟨host, hhost, port, hport, rfl⟩

theorem name_eq_cons (scheme : AddressScheme) : ∃ c name, scheme.name.toList = c :: name ∧
    (c.isAlpha ∧ isBlank c = false ∧ isControlOrSpace c = false) ∧
    name.all isSchemeChar ∧ name.all (!isTabOrNewline ·) ∧
    (c :: name).map Char.toLower = c :: name := by
  cases scheme with
  | tcp => exact ⟨'t', ['c', 'p'], rfl, by decide⟩
  | unix => exact ⟨'u', ['n', 'i', 'x'], rfl, by decide⟩
  | tls => exact ⟨'t', ['l', 's'], rfl, by decide⟩

theorem cleanFront_spelled (scheme : AddressScheme) (user : List Char)
    (h : ∀ c ∈ hostPort, isInert c) :
    cleanFront (scheme.name.toList ++ "://".toList ++ user ++ hostPort) =
      scheme.name.toList ++ "://".toList ++ user.filter (!isTabOrNewline ·) ++ hostPort := by
  obtain ⟨c, name, hname, ⟨-, -, hc⟩, -, hrest, -⟩ := name_eq_cons scheme
  have hfront : (scheme.name.toList ++ "://".toList ++ user ++ hostPort).dropWhile
      isControlOrSpace = scheme.name.toList ++ "://".toList ++ user ++ hostPort := by
    simp [hname, hc]
  have hkept : scheme.name.toList.filter (!isTabOrNewline ·) = scheme.name.toList := by
    rw [hname, List.filter_cons_of_pos (by simp [not_isTabOrNewline hc]),
      List.filter_eq_self.2 (List.all_eq_true.1 hrest)]
  have hinert : hostPort.filter (!isTabOrNewline ·) = hostPort := by
    rw [List.filter_eq_self]
    intro d hd
    have hd := h d hd
    simp only [isInert, Bool.and_eq_true] at hd
    exact hd.1.2
  have hslashes : "://".toList.filter (!isTabOrNewline ·) = "://".toList := by decide
  rw [cleanFront, hfront]
  simp only [List.filter_append, hkept, hinert, hslashes]

theorem parse_cleaned (hs : scheme ≠ .unix) (h : Parts user text digits tail host port)
    {raw : String} (hraw : clean raw.toList =
      scheme.name.toList ++ "://".toList ++ user ++ (text ++ ':' :: digits) ++ tail) :
    ∃ url, Url.parse raw.toList = .ok url ∧
      AddressScheme.ofName? (String.ofList url.scheme) = some scheme ∧
      target? raw url scheme = some (String.ofList (dialed host port)) := by
  obtain ⟨c, name, hname, ⟨hc, -⟩, hrest, -, hlower⟩ := name_eq_cons scheme
  have hsplit : splitScheme? (clean raw.toList) = some (scheme.name.toList,
      '/' :: '/' :: (user ++ (text ++ ':' :: digits) ++ tail)) := by
    rw [splitScheme?_eq_some_iff, hraw, hname]
    refine ⟨c, name, ?_, hc, List.all_eq_true.1 hrest, hlower.symm⟩
    simp
  refine ⟨⟨scheme.name.toList, some host, some port, pathAfter tail⟩, ?_,
    AddressScheme.ofName?_eq_some_iff.2 rfl, (target?_network hs).2 ⟨host, port, rfl, rfl, rfl⟩⟩
  simp only [Url.parse, hsplit]
  rw [ofScheme_authority (AddressScheme.not_isSpecial scheme), h.readAuthority]
  rfl

theorem trim_spell (scheme : AddressScheme) (user front tail : List Char) {d : Char}
    (hd : isBlank d = false) :
    Text.trim (spell scheme user (front ++ [d]) tail) =
      spell scheme user (front ++ [d]) (dropEndWhile isBlank tail) := by
  obtain ⟨c, name, hname, ⟨-, hc, -⟩, -⟩ := name_eq_cons scheme
  have hbefore : (scheme.name.toList ++ "://".toList ++ user ++ front).dropWhile isBlank =
      scheme.name.toList ++ "://".toList ++ user ++ front := by
    simp [hname, hc]
  have htext : (spell scheme user (front ++ [d]) tail).toList =
      scheme.name.toList ++ "://".toList ++ user ++ front ++ d :: tail := by
    simp [spell]
  rw [Text.trim, htext, trimChars_append_cons hd, hbefore, ← String.toList_inj]
  simp [spell]

theorem clean_spell (scheme : AddressScheme) (user : List Char) {front : List Char}
    (h : ∀ c ∈ front, isInert c) (tail : List Char) {d : Char} (hd : isControlOrSpace d = false) :
    clean (spell scheme user (front ++ [d]) tail).toList =
      scheme.name.toList ++ "://".toList ++ user.filter (!isTabOrNewline ·) ++ (front ++ [d]) ++
        cleanBack tail := by
  have htext : (spell scheme user (front ++ [d]) tail).toList =
      scheme.name.toList ++ "://".toList ++ user ++ front ++ d :: tail := by
    simp [spell]
  rw [htext, clean_append_cons hd, cleanFront_spelled scheme user h]
  simp

theorem isEmpty_spell (scheme : AddressScheme) (user hostPort tail : List Char) :
    (spell scheme user hostPort tail).isEmpty = false := by
  rw [Bool.eq_false_iff, ne_eq, String.isEmpty_iff, ← String.toList_eq_nil_iff]
  simp [spell]

theorem parse_spell (hs : scheme ≠ .unix) (h : Parts [] text digits [] host port)
    (hu : IsUser user) (ht : IsDecoration tail) :
    parse (spell scheme user (text ++ ':' :: digits) tail) =
      .ok ⟨spell scheme user (text ++ ':' :: digits) (dropEndWhile isBlank tail), scheme,
        String.ofList (dialed host port)⟩ := by
  obtain ⟨init, d, rfl⟩ : ∃ init d, digits = init ++ [d] :=
    ⟨_, _, (List.dropLast_concat_getLast h.port.nonempty).symm⟩
  -- the last digit is kept, so only what follows it is trimmed and cleaned at its end
  obtain ⟨hblank, hcontrol⟩ := isBlank_of_isDigit (h.port.digit d (by simp))
  have hlast : text ++ ':' :: (init ++ [d]) = (text ++ ':' :: init) ++ [d] := by simp
  have hinert := h.inert
  rw [hlast] at hinert
  have hclean := clean_spell scheme user (fun c hc => hinert c (List.mem_append_left _ hc))
    (dropEndWhile isBlank tail) hcontrol
  rw [← hlast] at hclean
  obtain ⟨url, hurl, hname, htarget⟩ := parse_cleaned hs
    ⟨hu.cleaned, h.name, h.present, h.port, ht.trimmed.cleaned.isTail⟩ hclean
  have htrim := trim_spell scheme user (text ++ ':' :: init) tail hblank
  rw [← hlast] at htrim
  exact parse_eq_ok_iff.2 ⟨htrim.symm, isEmpty_spell _ _ _ _, url, hurl, hname, htarget⟩

/-- The parts of the text that an address with host and port is read from. -/
structure SpelledBy (a : StorageAddress) (name user text digits tail : List Char) : Prop where
  clean : clean a.raw.toList = name ++ "://".toList ++ user ++ (text ++ ':' :: digits) ++ tail
  name : name.map Char.toLower = a.scheme.name.toList
  user : IsUser user
  inert : ∀ c ∈ text ++ ':' :: digits, isInert c
  digit : ∀ c ∈ digits, c.isDigit
  tail : IsTail tail

theorem exists_parts (h : parse address = .ok a) (hs : a.scheme ≠ .unix) :
    ∃ name user text digits tail host port, SpelledBy a name user text digits tail ∧
      Parts user text digits tail host port ∧ a.target = String.ofList (dialed host port) ∧
      Url.parse a.raw.toList =
        .ok ⟨a.scheme.name.toList, some host, some port, pathAfter tail⟩ := by
  obtain ⟨-, -, url, hurl, hname, hdial⟩ := parse_eq_ok_iff.1 h
  obtain ⟨host, port, hhost, hport, htarget⟩ := (target?_network hs).1 hdial
  have hscheme := AddressScheme.ofName?_eq_some_iff.1 hname
  obtain ⟨name, rest, hclean, -, hsmall, hrest⟩ := exists_ofScheme hurl
  rw [hscheme] at hsmall hrest
  rcases ofScheme_cases (AddressScheme.not_isSpecial _) hrest with
    ⟨rest, authority, rfl, hauthority, rfl⟩ | ⟨rest, -, rfl⟩ | rfl
  · obtain ⟨host', port', tail⟩ := authority
    simp only at hhost hport
    subst hhost hport
    obtain ⟨user, text, digits, rfl, hparts⟩ := parts_of_readAuthority hauthority
    exact ⟨name, user, text, digits, tail, host, port,
      ⟨by simpa using hclean, hsmall.symm, hparts.user, hparts.inert, hparts.port.digit,
        hparts.tail⟩, hparts, htarget, hurl⟩
  · cases hhost
  · cases hhost

/-- What holds of every address with host and port. -/
structure Canonical (a : StorageAddress) : Prop where
  /-- It is dialed by the host and by the port in the shortest way of writing. -/
  target : ∃ url host digits port, Url.parse a.raw.toList = .ok url ∧ url.host = some host ∧
    url.port = some port ∧ a.target.toList = host.toChars ++ ':' :: digits ∧ host.toChars ≠ [] ∧
      IsDecimal digits port ∧ port ≤ 65535
  /-- Only the host and the port that are read from it count. -/
  determined : ∀ address' a' url url', parse address' = .ok a' → a'.scheme ≠ .unix →
    Url.parse a.raw.toList = .ok url → Url.parse a'.raw.toList = .ok url' →
      url'.host = url.host → url'.port = url.port → a'.target = a.target
  /-- Whatever stands before and after the text of its host and port, what is dialed stays. -/
  undecorated : ∃ name user text digits tail, SpelledBy a name user text digits tail ∧
    ∀ scheme user' tail', scheme ≠ .unix → IsUser user' → IsDecoration tail' →
      parse (spell scheme user' (text ++ ':' :: digits) tail') =
        .ok ⟨spell scheme user' (text ++ ':' :: digits) (dropEndWhile isBlank tail'), scheme,
          a.target⟩
  redialed : parse (a.scheme.name ++ "://" ++ a.target) =
    .ok ⟨a.scheme.name ++ "://" ++ a.target, a.scheme, a.target⟩
  reread : parse a.raw = .ok a

theorem network_target_canonical (h : parse address = .ok a) (hs : a.scheme ≠ .unix) :
    Canonical a := by
  obtain ⟨name, user, text, digits, tail, host, port, hspelled, hparts, htarget, hurl⟩ :=
    exists_parts h hs
  have hdecimal := isDecimal_toDigits port
  have hnone : IsDecoration [] := by simp [IsDecoration]
  refine ⟨⟨_, host, Nat.toDigits 10 port, port, hurl, rfl, rfl, ?_, ?_, hdecimal,
    hparts.port.bound⟩, ?_, ⟨name, user, text, digits, tail, hspelled, ?_⟩, ?_, parse_raw h⟩
  · rw [htarget, String.toList_ofList]
    rfl
  · exact Host.toChars_ne_nil hparts.name hparts.present
  · intro address' a' url url' h' hs' hurl₁ hurl₂ hhost hport
    obtain ⟨_, _, _, _, _, host', port', -, -, htarget', hurl'⟩ := exists_parts h' hs'
    obtain rfl := Except.ok.inj (hurl.symm.trans hurl₁)
    obtain rfl := Except.ok.inj (hurl'.symm.trans hurl₂)
    cases hhost
    cases hport
    rw [htarget, htarget']
  · intro scheme user' tail' hs' hu ht
    rw [htarget]
    exact parse_spell hs'
      ⟨.inl rfl, hparts.name, hparts.present, hparts.port, hnone.isTail⟩ hu ht
  · have hdialed : Parts [] host.toChars (Nat.toDigits 10 port) [] host port :=
      ⟨.inl rfl, Host.ofNameChars?_toChars hparts.name, hparts.present,
        ⟨hdecimal.digit, hdecimal.nonempty, hdecimal.value, hparts.port.bound⟩, hnone.isTail⟩
    have hread := parse_spell hs hdialed (.inl rfl) hnone
    have hspell : a.scheme.name ++ "://" ++ a.target = spell a.scheme [] (dialed host port) [] := by
      rw [htarget, ← String.toList_inj]
      simp [spell]
    rw [hspell, htarget]
    exact hread

/-- Letters in capitals, leading zeros, user information and all that follows leave no trace. -/
theorem network_target_canonical_ipv6 :
    let address := " TLS://user@[2001:DB8:0:0:0:0:0:1]:0443/path?query#fragment "
    let a : StorageAddress :=
      ⟨"TLS://user@[2001:DB8:0:0:0:0:0:1]:0443/path?query#fragment", .tls, "[2001:db8::1]:443"⟩
    parse address = .ok a ∧ a.scheme ≠ .unix ∧ Canonical a := by
  intro address a
  have hparse : parse address = .ok a := by decide +kernel
  have hs : a.scheme ≠ .unix := by decide
  exact ⟨hparse, hs, network_target_canonical hparse hs⟩

end StorageAddress

end StorageCalls
