import StorageCalls.Proofs.HostRoundTrip
import StorageCalls.Proofs.Positions

namespace StorageCalls.Url

open Text

variable {c : Char} {cs user name after text digits tail remaining : List Char} {host : Host}
  {port : Nat}

/-- User information with its `@`, or none. It may hold further `@`. -/
def IsUser (user : List Char) : Prop :=
  user = [] ∨ ∃ name, user = name ++ ['@'] ∧ ∀ c ∈ name, isAuthorityEnd c = false

structure IsPort (digits : List Char) (port : Nat) : Prop where
  digit : ∀ c ∈ digits, c.isDigit
  nonempty : digits ≠ []
  value : ofDigits 10 (digits.map fun c => c.toNat - 48) = port
  bound : port ≤ 65535

/-- What may follow a port. After a backslash there is no `@`, which would make user information of
everything before it. -/
structure IsTail (tail : List Char) : Prop where
  start : ∀ c ∈ tail.head?, isPortEnd c
  user : '@' ∉ tail.takeWhile (!isAuthorityEnd ·)

/-- The parts of an authority that names a host and a port, with what follows it. -/
structure Parts (user text digits tail : List Char) (host : Host) (port : Nat) : Prop where
  user : IsUser user
  name : Host.ofNameChars? text = .ok host
  present : host ≠ .name []
  port : IsPort digits port
  tail : IsTail tail

theorem isPortEnd_of_isDigit (h : c.isDigit) : isPortEnd c = false := by
  by_contra hend
  simp only [isPortEnd, Bool.not_eq_false, Bool.or_eq_true, beq_iff_eq] at hend
  obtain ((rfl | rfl) | rfl) | rfl := hend <;> exact absurd h (by decide)

theorem takeWhile_append_head {p : Char → Bool} (hcs : ∀ c ∈ cs, p c = false)
    (htail : ∀ c ∈ tail.head?, p c) : (cs ++ tail).takeWhile (!p ·) = cs := by
  rw [List.takeWhile_append_of_pos (by simpa using hcs)]
  cases tail with
  | nil => simp
  | cons c tail => simp [htail c rfl]

theorem dropWhile_append_head {p : Char → Bool} (hcs : ∀ c ∈ cs, p c = false)
    (htail : ∀ c ∈ tail.head?, p c) : (cs ++ tail).dropWhile (!p ·) = tail := by
  rw [List.dropWhile_append_of_pos (by simpa using hcs)]
  cases tail with
  | nil => simp
  | cons c tail => simp [htail c rfl]

theorem readPort_eq_ok_iff : readPort cs = .ok (some port, remaining) ↔
    ∃ digits, cs = digits ++ remaining ∧ IsPort digits port ∧
      ∀ c ∈ remaining.head?, isPortEnd c := by
  constructor
  · intro h
    have hhead := List.head?_dropWhile_not (!isPortEnd ·) cs
    have hsplit := cs.takeWhile_append_dropWhile (p := (!isPortEnd ·))
    simp only [readPort] at h
    split at h
    · next hport =>
      simp only [Except.ok.injEq, Prod.mk.injEq] at h
      obtain ⟨hvalue, rfl⟩ := h
      split at hvalue
      · cases hvalue
      · next hempty =>
        refine ⟨_, hsplit.symm, ⟨List.all_eq_true.1 hport.1, by simpa using hempty,
          Option.some.inj hvalue, Option.some.inj hvalue ▸ hport.2⟩, fun c hc => ?_⟩
        rw [Option.mem_def] at hc
        simpa [hc] using hhead
    · cases h
  · rintro ⟨digits, rfl, ⟨hdigit, hne, rfl, hbound⟩, hstart⟩
    have hplain : ∀ c ∈ digits, isPortEnd c = false := fun c hc =>
      isPortEnd_of_isDigit (hdigit c hc)
    have hall : digits.all Char.isDigit := List.all_eq_true.2 hdigit
    simp only [readPort, takeWhile_append_head hplain hstart, dropWhile_append_head hplain hstart]
    simp [hall, hbound, hne]

theorem splitUser_append (h : '@' ∉ after) :
    splitUser (name ++ '@' :: after) = some (name, after) := by
  have htake : ((name ++ '@' :: after).reverse.takeWhile (· != '@')).reverse = after := by
    have hafter : '@' ∉ after.reverse := fun hmem => h (List.mem_reverse.1 hmem)
    rw [List.reverse_append, List.reverse_cons, List.append_assoc, List.singleton_append,
      takeWhile_bne_append hafter, List.reverse_reverse]
  have hlength : (name ++ '@' :: after).length - after.length - 1 = name.length := by
    simp
    omega
  simp only [splitUser, htake, hlength]
  simp

theorem splitUser_cases (cs : List Char) :
    ('@' ∉ cs ∧ splitUser cs = none) ∨
    ∃ name after, cs = name ++ '@' :: after ∧ '@' ∉ after ∧ splitUser cs = some (name, after) := by
  by_cases h : '@' ∈ cs
  · obtain ⟨after, name, hreverse, hafter⟩ :=
      List.eq_append_cons_of_mem (List.mem_reverse.2 h)
    have hcs : cs = name.reverse ++ '@' :: after.reverse := by
      simpa using congrArg List.reverse hreverse
    have hnone : '@' ∉ after.reverse := by simpa using hafter
    exact .inr ⟨_, _, hcs, hnone, hcs ▸ splitUser_append hnone⟩
  · exact .inl ⟨h, by simp [splitUser, h]⟩

theorem cutUser (hu : IsUser user) (h : '@' ∉ after) :
    (splitUser (user ++ after)).getD ([], user ++ after) = (user.dropLast, after) := by
  obtain rfl | ⟨name, rfl, -⟩ := hu
  · obtain ⟨-, hsplit⟩ | ⟨name, rest, hafter, -, -⟩ := splitUser_cases after
    · rw [List.nil_append, hsplit]
      rfl
    · exact absurd (by rw [hafter]; simp) h
  · rw [List.append_assoc, List.singleton_append, splitUser_append h, List.dropLast_concat]
    rfl

theorem exists_user (h : ∀ c ∈ cs, isAuthorityEnd c = false) :
    ∃ user after, cs = user ++ after ∧ IsUser user ∧ '@' ∉ after := by
  obtain ⟨hnone, -⟩ | ⟨name, after, rfl, hnone, -⟩ := splitUser_cases cs
  · exact ⟨[], cs, rfl, .inl rfl, hnone⟩
  · have hname : ∀ c ∈ name, isAuthorityEnd c = false := fun c hc => h c (by simp [hc])
    exact ⟨name ++ ['@'], after, by simp, .inr ⟨name, rfl, hname⟩, hnone⟩

theorem IsUser.not_end (h : IsUser user) : ∀ c ∈ user, isAuthorityEnd c = false := by
  obtain rfl | ⟨name, rfl, hname⟩ := h
  · simp
  · intro c hc
    obtain hc | hc := List.mem_append.1 hc
    · exact hname c hc
    · rw [List.mem_singleton.1 hc]
      decide

theorem eq_append_of_splitHost {bracket : Bool} {text rest : List Char}
    (h : splitHost bracket cs = (text, rest)) :
    cs = text ++ rest ∧ (rest = [] ∨ ∃ digits, rest = ':' :: digits) := by
  induction cs generalizing bracket text with
  | nil =>
    cases h
    exact ⟨rfl, .inl rfl⟩
  | cons c cs ih =>
    simp only [splitHost] at h
    split at h
    · next hc =>
      cases h
      exact ⟨rfl, .inr ⟨cs, by rw [hc.1]⟩⟩
    · cases h
      obtain ⟨hcs, hrest⟩ := ih rfl
      exact ⟨congrArg (c :: ·) hcs, hrest⟩

theorem exists_authority (cs : List Char) :
    ∃ authority tail, cs = authority ++ tail ∧ (∀ c ∈ authority, isAuthorityEnd c = false) ∧
      ∀ c ∈ tail.head?, isAuthorityEnd c := by
  refine ⟨_, _, (cs.takeWhile_append_dropWhile (p := (!isAuthorityEnd ·))).symm, fun c hc => ?_,
    fun c hc => ?_⟩
  · simpa using List.mem_takeWhile_imp hc
  · have hhead := List.head?_dropWhile_not (!isAuthorityEnd ·) cs
    rw [Option.mem_def] at hc
    simpa [hc] using hhead

variable {authority hostPort rest : List Char}

theorem readAuthority_of_parts (ha : ∀ c ∈ authority, isAuthorityEnd c = false)
    (ht : ∀ c ∈ tail.head?, isAuthorityEnd c)
    (huser : (splitUser authority).getD ([], authority) = (name, hostPort))
    (hhost : splitHost false hostPort = (text, rest)) :
    readAuthority false (authority ++ tail) = .ok (some host, some port, remaining) ↔
      ∃ digits, rest = ':' :: digits ∧ Host.ofNameChars? text = .ok host ∧ host ≠ .name [] ∧
        readPort (digits ++ tail) = .ok (some port, remaining) := by
  have hend : (fun c : Char => !(c == '/' || c == '?' || c == '#' || (false && c == '\\'))) =
      (!isAuthorityEnd ·) := by
    funext c
    simp [isAuthorityEnd]
  unfold readAuthority
  simp only [hend, takeWhile_append_head ha ht, dropWhile_append_head ha ht, huser, hhost, bind,
    Except.bind, pure, Except.pure, throw, throwThe, MonadExceptOf.throw, Bool.false_eq_true,
    if_false]
  constructor
  · intro h
    split at h
    · cases h
    · split at h
      · cases h
      · next host' hname =>
        split at h
        · cases h
        · split at h
          · next digits _ =>
            split at h
            · cases h
            · next parts hport =>
              split at h
              · cases h
              · obtain ⟨port', remaining'⟩ := parts
                simp only [Except.ok.injEq, Prod.mk.injEq] at h
                obtain ⟨hpresent, rfl, rfl⟩ := h
                split at hpresent
                · cases hpresent
                · next hne =>
                  cases hpresent
                  exact ⟨digits, rfl, hname, by simpa using hne, hport⟩
          · split at h
            · cases h
            · simp at h
  · rintro ⟨digits, rfl, hname, hne, hport⟩
    have hfull : hostPort.isEmpty = false := by
      rw [(eq_append_of_splitHost hhost).1]
      simp
    have hpresent : (host == Host.name []) = false := by simpa using hne
    simp only [hfull, hname, hpresent, hport, Bool.and_false, Bool.false_and, Bool.false_eq_true,
      if_false]

theorem isAuthorityEnd_of_isInert (h : isInert c) : isAuthorityEnd c = false ∧ c ≠ '@' := by
  simp only [isInert, Bool.and_eq_true, Bool.not_eq_true', bne_iff_ne] at h
  exact ⟨h.1.1, h.2⟩

theorem isInert_of_isDigit (h : c.isDigit) : isInert c :=
  isInert_of_apart Char.isDigit h (by decide)

theorem parts_of_readAuthority
    (h : readAuthority false cs = .ok (some host, some port, remaining)) :
    ∃ user text digits, cs = user ++ (text ++ ':' :: digits) ++ remaining ∧
      Parts user text digits remaining host port := by
  obtain ⟨authority, tail, rfl, ha, ht⟩ := exists_authority cs
  obtain ⟨user, hostPort, rfl, huser, hat⟩ := exists_user ha
  cases hhost : splitHost false hostPort with
  | mk text rest =>
    obtain ⟨digits, rfl, hname, hne, hport⟩ :=
      (readAuthority_of_parts ha ht (cutUser huser hat) hhost).1 h
    obtain ⟨digits', hdigits, hisPort, hstart⟩ := readPort_eq_ok_iff.1 hport
    obtain rfl := (eq_append_of_splitHost hhost).1
    refine ⟨user, text, digits', ?_, huser, hname, hne, hisPort, hstart, ?_⟩
    · simp only [List.append_assoc, List.cons_append, hdigits]
    · -- a backslash ends the port, but not the authority, so there may be more of it
      have hplain : ∀ c ∈ digits, isAuthorityEnd c = false := fun c hc => ha c (by simp [hc])
      have hplain' : ∀ c ∈ digits', (!isAuthorityEnd c) := fun c hc => by
        simp [(isAuthorityEnd_of_isInert (isInert_of_isDigit (hisPort.digit c hc))).1]
      have htake := takeWhile_append_head hplain ht
      rw [hdigits, List.takeWhile_append_of_pos hplain'] at htake
      intro hmem
      refine hat ?_
      rw [← htake]
      simp [hmem]

theorem Parts.inert (h : Parts user text digits tail host port) :
    ∀ c ∈ text ++ ':' :: digits, isInert c := by
  intro c hc
  obtain hc | hc := List.mem_append.1 hc
  · exact (isHostText_of_ofNameChars? h.name).inert c hc
  · obtain rfl | hc := List.mem_cons.1 hc
    · decide
    · exact isInert_of_isDigit (h.port.digit c hc)

theorem Parts.readAuthority (h : Parts user text digits tail host port) :
    readAuthority false (user ++ (text ++ ':' :: digits) ++ tail) =
      .ok (some host, some port, tail) := by
  obtain ⟨more, tail, rfl, hmore, ht⟩ := exists_authority tail
  have hat : '@' ∉ text ++ ':' :: digits ++ more := by
    intro hmem
    obtain hmem | hmem := List.mem_append.1 hmem
    · exact (isAuthorityEnd_of_isInert (h.inert _ hmem)).2 rfl
    · refine h.tail.user ?_
      rwa [takeWhile_append_head hmore ht]
  have hplain : ∀ c ∈ user ++ (text ++ ':' :: digits ++ more), isAuthorityEnd c = false := by
    intro c hc
    simp only [List.mem_append (s := user), List.mem_append (t := more)] at hc
    obtain hc | hc | hc := hc
    exacts [h.user.not_end c hc, (isAuthorityEnd_of_isInert (h.inert c hc)).1, hmore c hc]
  have hhost : splitHost false (text ++ ':' :: digits ++ more) =
      (text, ':' :: (digits ++ more)) := by
    rw [List.append_assoc, List.cons_append]
    exact (isHostText_of_ofNameChars? h.name).split _
  have hread : readPort (digits ++ more ++ tail) = .ok (some port, more ++ tail) :=
    readPort_eq_ok_iff.2 ⟨digits, List.append_assoc _ _ _, h.port, h.tail.start⟩
  have hresult := (readAuthority_of_parts hplain ht (cutUser h.user hat) hhost).2
    ⟨_, rfl, h.name, h.present, hread⟩
  simpa only [List.append_assoc] using hresult

end StorageCalls.Url
