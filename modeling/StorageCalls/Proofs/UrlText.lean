import Mathlib.Data.List.DropRight
import StorageCalls.Storage.Address

namespace StorageCalls

namespace Text

variable {p : Char → Bool} {x : Char} {before after : List Char}

theorem dropWhile_append_cons (h : p x = false) :
    (before ++ x :: after).dropWhile p = before.dropWhile p ++ x :: after := by
  induction before with
  | nil => simp [h]
  | cons c before ih =>
    rw [List.cons_append, List.dropWhile_cons, List.dropWhile_cons]
    split
    · exact ih
    · rfl

theorem dropEndWhile_append_cons (h : p x = false) (before after : List Char) :
    dropEndWhile p (before ++ x :: after) = before ++ x :: dropEndWhile p after := by
  have hreverse : (before ++ x :: after).reverse = after.reverse ++ x :: before.reverse := by simp
  rw [dropEndWhile, hreverse, dropWhile_append_cons h]
  simp [dropEndWhile]

theorem trimChars_append_cons (h : isBlank x = false) :
    trimChars (before ++ x :: after) =
      before.dropWhile isBlank ++ x :: dropEndWhile isBlank after := by
  rw [trimChars, dropWhile_append_cons h, dropEndWhile_append_cons h]

theorem dropEndWhile_cons (h : p x = false) (s : List Char) :
    dropEndWhile p (x :: s) = x :: dropEndWhile p s :=
  dropEndWhile_append_cons h [] s

theorem trimChars_trimChars (s : List Char) : trimChars (trimChars s) = trimChars s := by
  have hhead := List.head_dropWhile_not isBlank (l := s)
  have hagain := List.rdropWhile_idempotent isBlank
  unfold trimChars
  cases hs : s.dropWhile isBlank with
  | nil => rfl
  | cons x rest =>
    have hx : isBlank x = false := by simpa [hs] using hhead (by simp [hs])
    rw [dropEndWhile_cons hx, List.dropWhile_cons_of_neg (by simp [hx]), dropEndWhile_cons hx]
    exact congrArg (x :: ·) (hagain rest)

theorem trim_trim (s : String) : trim (trim s) = trim s := by
  rw [trim, trim, String.toList_ofList, trimChars_trimChars]

end Text

namespace StorageAddress

variable {address : String} {a : StorageAddress}

theorem parse_eq_ok_iff : parse address = .ok a ↔
    a.raw = Text.trim address ∧ a.raw.isEmpty = false ∧ ∃ url, Url.parse a.raw.toList = .ok url ∧
      AddressScheme.ofName? (String.ofList url.scheme) = some a.scheme ∧
      target? a.raw url a.scheme = some a.target := by
  obtain ⟨raw, scheme, target⟩ := a
  simp only [parse]
  constructor
  · intro h
    split at h
    · cases h
    · next hempty =>
      cases hurl : Url.parse (Text.trim address).toList with
      | error fault => rw [hurl] at h; cases h
      | ok url =>
        rw [hurl] at h
        cases hscheme : AddressScheme.ofName? (String.ofList url.scheme) with
        | none => simp only [hscheme] at h; cases h
        | some scheme' =>
          simp only [hscheme] at h
          cases htarget : target? (Text.trim address) url scheme' with
          | none => rw [htarget] at h; cases h
          | some target' =>
            rw [htarget] at h
            cases h
            exact ⟨rfl, Bool.eq_false_iff.2 hempty, url, hurl, hscheme, htarget⟩
  · rintro ⟨rfl, hempty, url, hurl, hscheme, htarget⟩
    simp only [hempty, hurl, hscheme, htarget, Bool.false_eq_true, if_false]

/-- The text that an address keeps reads as the same address. -/
theorem parse_raw (h : parse address = .ok a) : parse a.raw = .ok a := by
  obtain ⟨hraw, hrest⟩ := parse_eq_ok_iff.1 h
  exact parse_eq_ok_iff.2 ⟨by rw [hraw, Text.trim_trim], hrest⟩

end StorageAddress

namespace Url

open Text

variable {c : Char} {before after cs scheme rest : List Char}

def cleanFront (cs : List Char) : List Char :=
  (cs.dropWhile isControlOrSpace).filter (!isTabOrNewline ·)

def cleanBack (cs : List Char) : List Char :=
  (dropEndWhile isControlOrSpace cs).filter (!isTabOrNewline ·)

theorem not_isTabOrNewline (h : isControlOrSpace c = false) : isTabOrNewline c = false := by
  simp only [isControlOrSpace, decide_eq_false_iff_not] at h
  simp only [isTabOrNewline, Bool.or_eq_false_iff, beq_eq_false_iff_ne]
  refine ⟨⟨?_, ?_⟩, ?_⟩ <;> (rintro rfl; exact h (by decide))

theorem clean_append_cons (h : isControlOrSpace c = false) (before after : List Char) :
    clean (before ++ c :: after) = cleanFront before ++ c :: cleanBack after := by
  have hback := dropEndWhile_append_cons h (before.dropWhile isControlOrSpace) after
  rw [dropEndWhile] at hback
  rw [clean, dropWhile_append_cons h, hback, List.filter_append,
    List.filter_cons_of_pos (by simp [not_isTabOrNewline h])]
  rfl

theorem isSchemeChar_of_isAlpha (h : c.isAlpha) : isSchemeChar c := by
  simp [isSchemeChar, Char.isAlphanum, h]

/-- A scheme is the name before the first colon, in small letters. -/
theorem splitScheme?_eq_some_iff : splitScheme? cs = some (scheme, rest) ↔
    ∃ c name, cs = c :: name ++ ':' :: rest ∧ c.isAlpha ∧ (∀ d ∈ name, isSchemeChar d) ∧
      scheme = (c :: name).map Char.toLower := by
  constructor
  · intro h
    cases cs with
    | nil => cases h
    | cons c cs =>
      simp only [splitScheme?] at h
      split at h
      · next rest' hdrop =>
        split at h
        · next halpha =>
          have htake : (c :: cs).takeWhile isSchemeChar = c :: cs.takeWhile isSchemeChar :=
            List.takeWhile_cons_of_pos (isSchemeChar_of_isAlpha halpha)
          have hsplit := (c :: cs).takeWhile_append_dropWhile (p := isSchemeChar)
          rw [htake, hdrop] at hsplit
          cases h
          exact ⟨c, _, hsplit.symm, halpha, fun d hd => List.mem_takeWhile_imp hd, by rw [htake]⟩
        · cases h
      · cases h
  · rintro ⟨c, name, rfl, hc, hname, rfl⟩
    have hall : ∀ d ∈ c :: name, isSchemeChar d := by
      simpa [isSchemeChar_of_isAlpha hc] using hname
    have hcolon : ¬ isSchemeChar ':' := by decide
    have htake : (c :: name ++ ':' :: rest).takeWhile isSchemeChar = c :: name := by
      rw [List.takeWhile_append_of_pos hall, List.takeWhile_cons_of_neg hcolon, List.append_nil]
    have hdrop : (c :: name ++ ':' :: rest).dropWhile isSchemeChar = ':' :: rest := by
      rw [List.dropWhile_append_of_pos hall, List.dropWhile_cons_of_neg hcolon]
    rw [List.cons_append] at htake hdrop ⊢
    simp only [splitScheme?, htake, hdrop, hc, if_true]

theorem scheme_ofScheme {url : Url} (h : ofScheme scheme cs = .ok url) : url.scheme = scheme := by
  unfold ofScheme at h
  simp only [bind, Except.bind, pure, Except.pure] at h
  repeat' split at h
  all_goals cases h
  all_goals rfl

theorem exists_ofScheme {url : Url} (h : parse cs = .ok url) :
    ∃ name rest, clean cs = name ++ ':' :: rest ∧ (∀ d ∈ name, isSchemeChar d) ∧
      url.scheme = name.map Char.toLower ∧ ofScheme url.scheme rest = .ok url := by
  unfold parse at h
  cases hsplit : splitScheme? (clean cs) with
  | none =>
    rw [hsplit] at h
    cases h
  | some parts =>
    obtain ⟨scheme, rest⟩ := parts
    rw [hsplit] at h
    have hscheme : url.scheme = scheme := scheme_ofScheme h
    obtain ⟨c, name, hclean, halpha, hname, hsmall⟩ := splitScheme?_eq_some_iff.1 hsplit
    refine ⟨c :: name, rest, hclean, ?_, hscheme.trans hsmall, hscheme ▸ h⟩
    simpa [isSchemeChar_of_isAlpha halpha] using hname

def pathAfter (remaining : List Char) : List Char :=
  match remaining with
  | [] => []
  | c :: _ =>
    if Path.isPathEnd c then [] else Path.resolve false (if c = '/' then [] else ['/']) remaining

theorem ne_file_of_not_isSpecial (h : isSpecial scheme = false) : scheme ≠ "file".toList := by
  rintro rfl
  exact absurd h (by decide)

theorem ofScheme_authority (h : isSpecial scheme = false) (cs : List Char) :
    ofScheme scheme ('/' :: '/' :: cs) =
      (readAuthority false cs).map fun a => ⟨scheme, a.1, a.2.1, pathAfter a.2.2⟩ := by
  simp only [ofScheme, if_neg (ne_file_of_not_isSpecial h), h, Bool.false_eq_true, if_false]
  cases readAuthority false cs <;> rfl

theorem ofScheme_cases {url : Url} (h : isSpecial scheme = false)
    (hurl : ofScheme scheme cs = .ok url) :
    (∃ rest a, cs = '/' :: '/' :: rest ∧ readAuthority false rest = .ok a ∧
      url = ⟨scheme, a.1, a.2.1, pathAfter a.2.2⟩) ∨
    (∃ rest, cs = '/' :: rest ∧ url = ⟨scheme, none, none, Path.resolve false ['/'] rest⟩) ∨
    url = ⟨scheme, none, none, cs.takeWhile (!Path.isPathEnd ·)⟩ := by
  unfold ofScheme at hurl
  rw [if_neg (ne_file_of_not_isSpecial h), if_neg (by simp [h])] at hurl
  split at hurl
  · next rest =>
    cases ha : readAuthority false rest with
    | error fault =>
      rw [ha] at hurl
      cases hurl
    | ok a =>
      rw [ha] at hurl
      cases hurl
      exact .inl ⟨rest, a, rfl, ha, rfl⟩
  · next rest _ =>
    cases hurl
    exact .inr (.inl ⟨rest, rfl, rfl⟩)
  · cases hurl
    exact .inr (.inr rfl)

end Url

namespace AddressScheme

variable {name : List Char} {scheme : AddressScheme}

theorem ofName?_eq_some_iff : ofName? (String.ofList name) = some scheme ↔
    name = scheme.name.toList := by
  have hnames : ∀ s s' : AddressScheme, s.name = s'.name ↔ s = s' := by
    intro s s'
    cases s <;> cases s' <;> decide
  have hfind : ∀ s : AddressScheme, ofName? s.name = some s := by
    intro s
    cases s <;> rfl
  constructor
  · intro h
    have hname := List.find?_some h
    rw [← String.toList_ofList (l := name), beq_iff_eq.1 hname]
  · rintro rfl
    rw [String.ofList_toList]
    exact hfind scheme

theorem not_isSpecial (scheme : AddressScheme) : Url.isSpecial scheme.name.toList = false := by
  cases scheme <;> decide

end AddressScheme

end StorageCalls
