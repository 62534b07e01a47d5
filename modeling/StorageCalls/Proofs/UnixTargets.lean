import StorageCalls.Proofs.Positions
import StorageCalls.Proofs.RegistrySecurity
import StorageCalls.Proofs.UrlText

namespace StorageCalls

namespace Url

open Text

variable {c : Char} {before after cs scheme rest start : List Char} {url : Url}

namespace Path

theorem mem_splitAtEach_of_all {p : Char → Bool} (h : ∀ c ∈ cs, p c) :
    ∀ segment ∈ splitAtEach p cs, segment = [] := by
  induction cs with
  | nil => simp [splitAtEach]
  | cons c cs ih =>
    have hc := h c List.mem_cons_self
    simpa [splitAtEach, hc] using ih fun d hd => h d (List.mem_cons_of_mem _ hd)

theorem push_nil_slashes (h : ∀ c ∈ start, c = '/') (last : Bool) :
    ∀ c ∈ push start [] last, c = '/' := by
  have hdouble : isDoubleDot [] = false := by decide
  have hsingle : isSingleDot [] = false := by decide
  cases last with
  | true => simpa [push, hdouble, hsingle] using h
  | false =>
    intro c hc
    simp only [push, hdouble, hsingle, Bool.false_eq_true, if_false, List.append_nil,
      List.mem_append, List.mem_singleton] at hc
    exact hc.elim (h c) id

theorem pushAll_slashes {segments : List (List Char)} (h : ∀ c ∈ start, c = '/')
    (hs : ∀ segment ∈ segments, segment = []) : ∀ c ∈ pushAll start segments, c = '/' := by
  induction segments generalizing start with
  | nil => exact h
  | cons segment segments ih =>
    obtain rfl := hs segment List.mem_cons_self
    have hrest := fun segment hm => hs segment (List.mem_cons_of_mem _ hm)
    cases segments with
    | nil => exact push_nil_slashes h true
    | cons next segments => exact ih (push_nil_slashes h false) hrest

theorem resolve_slashes (h : ∀ c ∈ start, c = '/') (hcs : ∀ c ∈ cs, c = '/') :
    ∀ c ∈ resolve false start cs, c = '/' := by
  apply pushAll_slashes h
  apply mem_splitAtEach_of_all
  intro c hc
  simp [hcs c ((List.takeWhile_sublist _).subset hc)]

end Path

theorem readAuthority_slashes (h : ∀ c ∈ cs, c = '/') :
    readAuthority false cs = .ok (none, none, cs) := by
  cases cs with
  | nil => rfl
  | cons c cs =>
    obtain rfl := h c List.mem_cons_self
    rfl

theorem pathAfter_slashes (h : ∀ c ∈ cs, c = '/') : ∀ c ∈ pathAfter cs, c = '/' := by
  cases cs with
  | nil => simp [pathAfter]
  | cons c cs =>
    obtain rfl := h c List.mem_cons_self
    exact Path.resolve_slashes (by simp) h

theorem exists_not_slash (hspecial : isSpecial scheme = false)
    (hurl : ofScheme scheme cs = .ok url) (hpath : ∃ c ∈ url.path, c ≠ '/') :
    ∃ c ∈ cs, c ≠ '/' := by
  by_contra hnone
  have hcs : ∀ c ∈ cs, c = '/' := fun c hc => by
    by_contra hne
    exact hnone ⟨c, hc, hne⟩
  obtain ⟨c, hc, hne⟩ := hpath
  refine hne ?_
  rcases ofScheme_cases hspecial hurl with ⟨rest, a, rfl, ha, rfl⟩ | ⟨rest, rfl, rfl⟩ | rfl
  · have hrest : ∀ c ∈ rest, c = '/' := fun c hc => hcs c (by simp [hc])
    rw [readAuthority_slashes hrest] at ha
    cases ha
    exact pathAfter_slashes hrest c hc
  · exact Path.resolve_slashes (by simp) (fun c hc => hcs c (by simp [hc])) c hc
  · exact hcs c ((List.takeWhile_sublist _).subset hc)

theorem mem_of_mem_cleanFront (h : c ∈ cleanFront cs) : c ∈ cs :=
  (List.dropWhile_sublist _).subset (List.mem_of_mem_filter h)

theorem mem_of_mem_clean (h : c ∈ clean cs) : c ∈ cs := by
  have hdrop := List.mem_of_mem_filter h
  rw [List.mem_reverse] at hdrop
  have hfront := (List.dropWhile_sublist _).subset hdrop
  exact (List.dropWhile_sublist _).subset (List.mem_reverse.1 hfront)

theorem mem_of_mem_cleanBack (h : c ∈ cleanBack cs) : c ∈ cs := by
  have hdrop := List.mem_of_mem_filter h
  rw [dropEndWhile, List.mem_reverse] at hdrop
  exact List.mem_reverse.1 ((List.dropWhile_sublist _).subset hdrop)

theorem cleanFront_eq_self (h : ∀ c ∈ cs, isControlOrSpace c = false) : cleanFront cs = cs := by
  have hdrop : cs.dropWhile isControlOrSpace = cs := by
    cases cs with
    | nil => rfl
    | cons c cs => exact List.dropWhile_cons_of_neg (by simp [h c])
  rw [cleanFront, hdrop, List.filter_eq_self]
  intro c hc
  simp [not_isTabOrNewline (h c hc)]

/-- A text is cleaned on each side of its first colon. -/
theorem exists_cut (h : clean cs = start ++ ':' :: rest) (hstart : ':' ∉ start) :
    ∃ before after, cs = before ++ ':' :: after ∧ ':' ∉ before ∧ cleanFront before = start ∧
      cleanBack after = rest := by
  have hmem : ':' ∈ cs := mem_of_mem_clean (by rw [h]; simp)
  obtain ⟨before, after, rfl, hbefore⟩ := List.eq_append_cons_of_mem hmem
  rw [clean_append_cons (by decide)] at h
  have hfront : ':' ∉ cleanFront before := fun hm => hbefore (mem_of_mem_cleanFront hm)
  have htake := congrArg (List.takeWhile (· != ':')) h
  rw [takeWhile_bne_append hfront, takeWhile_bne_append hstart] at htake
  rw [htake] at h
  exact ⟨before, after, rfl, hbefore, htake, by simpa using List.append_cancel_left h⟩

end Url

namespace StorageAddress

open Url

/-- A text that is dialed as a socket: the five characters `unix:`, and more than slashes after
them. -/
def IsSocket (target : String) : Prop :=
  ∃ rest, target.toList = "unix:".toList ++ rest ∧ ∃ c ∈ rest, c ≠ '/'

def writtenScheme (target : String) : List Char := target.toList.takeWhile (· != ':')

/-- A text that stands for a socket, though perhaps not literally: the scheme is `unix` up to
capital letters and left out characters. -/
def MeansSocket (target : String) : Prop :=
  ∃ rest, target.toList = writtenScheme target ++ ':' :: rest ∧
    (cleanFront (writtenScheme target)).map Char.toLower = "unix".toList ∧ ∃ c ∈ rest, c ≠ '/'

theorem le_toNat_of_isLower {c : Char} (h : c.isLower) : 97 ≤ c.toNat := by
  have hlow := of_decide_eq_true (Bool.and_eq_true_iff.1 h).1
  exact hlow

theorem isControlOrSpace_of_isLower {c : Char} (h : c.isLower) : isControlOrSpace c = false := by
  have hle := le_toNat_of_isLower h
  simp only [isControlOrSpace, decide_eq_false_iff_not]
  omega

theorem toLower_of_isLower {c : Char} (h : c.isLower) : c.toLower = c := by
  have hle := le_toNat_of_isLower h
  unfold Char.toLower
  rw [dif_neg]
  intro hcapital
  have hhigh : c.toNat ≤ 90 := hcapital.2
  omega

/-- A socket is dialed literally just when its scheme was written in small letters only. -/
theorem isSocket_iff {target : String} (h : MeansSocket target) :
    IsSocket target ↔ ∀ c ∈ writtenScheme target, c.isLower := by
  obtain ⟨rest, htarget, hscheme, hrest⟩ := h
  constructor
  · rintro ⟨rest', htarget', -⟩
    have hwritten : writtenScheme target = "unix".toList := by
      rw [writtenScheme, htarget']
      rfl
    rw [hwritten]
    exact List.all_eq_true.1 (by decide)
  · intro hlower
    have hclean := cleanFront_eq_self fun c hc => isControlOrSpace_of_isLower (hlower c hc)
    have hsmall : (writtenScheme target).map Char.toLower = writtenScheme target :=
      (List.map_congr_left fun c hc => toLower_of_isLower (hlower c hc)).trans (List.map_id _)
    rw [hclean, hsmall] at hscheme
    rw [hscheme] at htarget
    exact ⟨rest, htarget, hrest⟩

variable {address : String} {a : StorageAddress}

theorem meansSocket_of_parse (h : parse address = .ok a) (hs : a.scheme = .unix) :
    a.target = a.raw ∧ MeansSocket a.raw := by
  obtain ⟨-, -, url, hurl, hname, htarget⟩ := parse_eq_ok_iff.1 h
  rw [hs] at hname htarget
  rw [AddressScheme.ofName?_eq_some_iff] at hname
  obtain ⟨name, rest, hclean, hscheme, hsmall, hrest⟩ := exists_ofScheme hurl
  rw [hname] at hsmall hrest
  cases hall : url.path.all (· == '/') with
  | true =>
    rw [target?, if_pos hall] at htarget
    cases htarget
  | false =>
    rw [target?, if_neg (by simp [hall])] at htarget
    have hpath : ∃ c ∈ url.path, c ≠ '/' := by simpa using List.all_eq_false.1 hall
    have hcolon : ':' ∉ name := fun hm => absurd (hscheme _ hm) (by decide)
    obtain ⟨before, after, hraw, hbefore, rfl, rfl⟩ := exists_cut hclean hcolon
    obtain ⟨d, hd, hne⟩ := exists_not_slash (AddressScheme.not_isSpecial .unix) hrest hpath
    have hwritten : writtenScheme a.raw = before := by
      rw [writtenScheme, hraw, takeWhile_bne_append hbefore]
    exact ⟨(Option.some.inj htarget).symm, after, by rw [hwritten, hraw],
      by rw [hwritten, ← hsmall]; rfl, d, mem_of_mem_cleanBack hd, hne⟩

/-- A socket is dialed by the address as it was given, wherever its storage is looked up. -/
structure DialedAsGiven (address : String) (a : StorageAddress) : Prop where
  target : a.target = Text.trim address
  means : MeansSocket a.target
  literal : IsSocket a.target ↔ ∀ c ∈ writtenScheme a.target, c.isLower
  endpoint : ∀ (r : Registry) (n : Network) (files : Files) (actions : List Registry.Action)
    (service : String) (s : StorageConfig) (c : Connection),
    r.config.storage? s.name = some s → s.address = address →
      (r.lookup (r.run ⟨⟨[], n⟩, files⟩ actions) service s.name).result = .ok c →
        c.target.endpoint = a.target

/-- What is dialed for a socket is literal just when the scheme was written in small letters. -/
theorem socket_literal_iff (h : parse address = .ok a) (hs : a.scheme = .unix) :
    DialedAsGiven address a := by
  obtain ⟨htarget, hmeans⟩ := meansSocket_of_parse h hs
  rw [← htarget] at hmeans
  refine ⟨htarget.trans (parse_eq_ok_iff.1 h).1, hmeans, isSocket_iff hmeans, ?_⟩
  intro r n files actions service s c hstorage haddress hc
  obtain ⟨-, -, -, -, s', a', hs', ha', -, -, hendpoint, -⟩ :=
    (r.secured_of_empty n files actions).answered service s.name c hc
  obtain rfl := Option.some.inj (hstorage.symm.trans hs')
  rw [haddress] at ha'
  rw [hendpoint, Except.ok.inj (h.symm.trans ha')]

/-- In small letters it is literal. -/
theorem socket_literal_small :
    let a : StorageAddress := ⟨"unix:/run/gitaly.socket", .unix, "unix:/run/gitaly.socket"⟩
    DialedAsGiven " unix:/run/gitaly.socket " a ∧ IsSocket a.target := by
  intro a
  have hdialed : DialedAsGiven " unix:/run/gitaly.socket " a := socket_literal_iff (by rfl) rfl
  exact ⟨hdialed, hdialed.literal.2 (List.all_eq_true.1 (by decide))⟩

/-- With capital letters, or with a tab, the address is accepted and what is dialed for it does not
begin with `unix:`. -/
theorem socket_not_literal :
    let capital : StorageAddress :=
      ⟨"UNIX:/run/gitaly.socket", .unix, "UNIX:/run/gitaly.socket"⟩
    let tab : StorageAddress := ⟨"un\tix:/run/gitaly.socket", .unix, "un\tix:/run/gitaly.socket"⟩
    let r : Registry :=
      ⟨(default : ClientConfig).addStorage
        ⟨"default", "UNIX:/run/gitaly.socket", some "secret"⟩, []⟩
    let c : Connection :=
      ⟨0, ⟨"repository", "default", "UNIX:/run/gitaly.socket", .insecure, default⟩, []⟩
    parse "UNIX:/run/gitaly.socket" = .ok capital ∧ ¬ IsSocket capital.target ∧
      parse "un\tix:/run/gitaly.socket" = .ok tab ∧ ¬ IsSocket tab.target ∧
      (r.lookup ⟨⟨[], .empty⟩, .empty⟩ "repository" "default").result = .ok c ∧
      ¬ IsSocket c.target.endpoint := by
  have hnot : ∀ target : String, target.toList.take 5 ≠ "unix:".toList → ¬ IsSocket target := by
    rintro target hne ⟨rest, htarget, -⟩
    exact hne (by rw [htarget]; rfl)
  intro capital tab r c
  have hcapital : ¬ IsSocket "UNIX:/run/gitaly.socket" := hnot _ (by decide)
  exact ⟨by rfl, hcapital, by rfl, hnot _ (by decide), by rfl, hcapital⟩

end StorageAddress

end StorageCalls
