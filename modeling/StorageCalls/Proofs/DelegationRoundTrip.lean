import StorageCalls.Call.Delegation
import StorageCalls.Proofs.Base64RoundTrip
import StorageCalls.Proofs.JsonStrings
import StorageCalls.Proofs.Resolution

namespace StorageCalls.Delegation

open Json

variable {first : Bool} {fuel : Nat} {rest : List UInt8}

def serverBytes (address token : String) (rest : List UInt8) : List UInt8 :=
  byte '"' :: (written "address" ++ byte '"' :: byte ':' :: byte '"' :: (written address ++
    byte '"' :: byte ',' :: byte '"' :: (written "token" ++ byte '"' :: byte ':' :: byte '"' ::
      (written token ++ byte '"' :: byte '\x7d' :: rest))))

theorem bytes_document (s : ResolvedStorage) :
    (document s).flatMap String.utf8EncodeChar =
      byte '\x7b' :: byte '"' :: (written s.name ++ byte '"' :: byte ':' :: byte '\x7b' ::
        serverBytes s.address.raw s.token [byte '\x7d']) := by
  have hopen : String.utf8EncodeChar '\x7b' = [byte '\x7b'] := utf8EncodeChar_ascii (by decide)
  have hclose : String.utf8EncodeChar '\x7d' = [byte '\x7d'] := utf8EncodeChar_ascii (by decide)
  have hcolon : String.utf8EncodeChar ':' = [byte ':'] := utf8EncodeChar_ascii (by decide)
  have hcomma : String.utf8EncodeChar ',' = [byte ','] := utf8EncodeChar_ascii (by decide)
  simp only [document, serverBytes, List.flatMap_cons, List.flatMap_append, List.flatMap_nil,
    quoted_eq_written, hopen, hclose, hcolon, hcomma, List.cons_append, List.nil_append,
    List.append_assoc, List.append_nil]

theorem dropBlanks_of_not_blank {b : UInt8} (h : isBlank b = false) (s : List UInt8) :
    dropBlanks (b :: s) = b :: s :=
  List.dropWhile_cons_of_neg (by rw [h]; exact Bool.false_ne_true)

theorem expect_self (c : Char) (s : List UInt8) : expect c (byte c :: s) = .ok s := by
  rw [expect, if_pos rfl]

theorem nextKey_first (s : List UInt8) : nextKey true (byte '"' :: s) = .ok (.item s) := by
  rw [nextKey, dropBlanks_of_not_blank (by decide)]
  rfl

theorem nextKey_later (s : List UInt8) :
    nextKey false (byte ',' :: byte '"' :: s) = .ok (.item s) := by
  simp only [nextKey, dropBlanks_of_not_blank (show isBlank (byte ',') = false by decide),
    dropBlanks_of_not_blank (show isBlank (byte '"') = false by decide), expect_self]
  rfl

theorem nextKey_close (first : Bool) (s : List UInt8) :
    nextKey first (byte '\x7d' :: s) = .ok (.close s) := by
  rw [nextKey, dropBlanks_of_not_blank (by decide)]
  rfl

theorem serverFields_address {s : List UInt8} {value : String} {token : Option String}
    (h : nextKey first s = .ok (.item (written "address" ++ byte '"' :: byte ':' :: byte '"' ::
      (written value ++ byte '"' :: rest)))) :
    serverFields (fuel + 1) first none token s =
      serverFields fuel false (some value) token rest := by
  rw [serverFields, h]
  simp only [bind, Except.bind, text_written, if_true, Option.isSome_none, Bool.false_eq_true,
    if_false, dropBlanks_of_not_blank (show isBlank (byte ':') = false by decide), expect_self,
    textValue_written]

theorem serverFields_token {s : List UInt8} {value : String} {address : Option String}
    (h : nextKey first s = .ok (.item (written "token" ++ byte '"' :: byte ':' :: byte '"' ::
      (written value ++ byte '"' :: rest)))) :
    serverFields (fuel + 1) first address none s =
      serverFields fuel false address (some value) rest := by
  have hne : ¬ ("token" = "address") := by decide
  rw [serverFields, h]
  simp only [bind, Except.bind, text_written, if_neg hne, if_true, Option.isSome_none,
    Bool.false_eq_true, if_false,
    dropBlanks_of_not_blank (show isBlank (byte ':') = false by decide), expect_self,
    textValue_written]

theorem serverFields_serverBytes (address token : String) :
    serverFields (fuel + 3) true none none (serverBytes address token rest) =
      .ok (⟨address, token⟩, rest) := by
  rw [serverBytes, serverFields_address (nextKey_first _), serverFields_token (nextKey_later _),
    serverFields, nextKey_close]
  rfl

theorem server_serverBytes (address token : String) :
    server (byte '\x7b' :: serverBytes address token rest) = .ok (⟨address, token⟩, rest) := by
  have hfuel : (serverBytes address token rest).length + 1 =
      (serverBytes address token rest).length - 2 + 3 := by
    simp only [serverBytes, List.length_cons, List.length_append]
    omega
  rw [server, dropBlanks_of_not_blank (by decide)]
  simp only [if_true, hfuel]
  exact serverFields_serverBytes address token

theorem servers_serverBytes (name address token : String) :
    servers (fuel + 2) true .empty (byte '"' :: (written name ++ byte '"' :: byte ':' ::
        byte '\x7b' :: serverBytes address token (byte '\x7d' :: rest))) =
      .ok (Table.empty.insert name ⟨address, token⟩, rest) := by
  rw [servers, nextKey_first]
  simp only [bind, Except.bind, text_written,
    dropBlanks_of_not_blank (show isBlank (byte ':') = false by decide), expect_self,
    server_serverBytes]
  rw [servers, nextKey_close]
  rfl

theorem readServers_document (s : ResolvedStorage) :
    readServers ((document s).flatMap String.utf8EncodeChar) =
      .ok (Table.empty.insert s.name ⟨s.address.raw, s.token⟩) := by
  rw [bytes_document, readServers, dropBlanks_of_not_blank (by decide)]
  simp only [if_true, List.length_cons, servers_serverBytes]
  rfl

theorem decode_encode_self (s : ResolvedStorage) :
    decode (encode s) = .ok (Table.empty.insert s.name ⟨s.address.raw, s.token⟩) := by
  rw [decode, encode, Base64.decode_encode]
  simp only [readServers_document]
  rfl

/-- What a delegation says can be read off its value, so storages that differ have different
values. -/
theorem recovered_from_value {text : String} {s : ResolvedStorage}
    (h : StorageAddress.parse text = .ok s.address) :
    (∃ table, decode (encode s) = .ok table ∧
      table.toList = [(s.name, ⟨Text.trim text, s.token⟩)]) ∧
      ∀ s', encode s' = encode s →
        s'.name = s.name ∧ s'.address.raw = s.address.raw ∧ s'.token = s.token := by
  have hs := decode_encode_self s
  refine ⟨⟨_, hs, by rw [StorageAddress.raw_of_parse h]; rfl⟩, fun s' he => ?_⟩
  have hs' := decode_encode_self s'
  rw [he, hs] at hs'
  have hentries : [(s.name, (⟨s.address.raw, s.token⟩ : ServerInfo))] =
      [(s'.name, ⟨s'.address.raw, s'.token⟩)] := congrArg Table.toList (Except.ok.inj hs')
  simp only [List.cons.injEq, Prod.mk.injEq, ServerInfo.mk.injEq, and_true] at hentries
  obtain ⟨hname, haddress, htoken⟩ := hentries
  exact ⟨hname.symm, haddress.symm, htoken.symm⟩

theorem recovered_from_value_of_escapes :
    let text := " tls://h:9 "
    let s : ResolvedStorage := ⟨"a\"b\\c\n\x01é😀", ⟨"tls://h:9", .tls, "h:9"⟩, ""⟩
    StorageAddress.parse text = .ok s.address ∧
      (∃ table, decode (encode s) = .ok table ∧ table.toList = [(s.name, ⟨"tls://h:9", ""⟩)]) ∧
      ∀ s', encode s' = encode s →
        s'.name = s.name ∧ s'.address.raw = "tls://h:9" ∧ s'.token = "" := by
  have h : StorageAddress.parse " tls://h:9 " = .ok ⟨"tls://h:9", .tls, "h:9"⟩ := by rfl
  have htrim : Text.trim " tls://h:9 " = "tls://h:9" := by rfl
  intro text s
  have hread := recovered_from_value (s := s) h
  rw [htrim] at hread
  exact ⟨h, hread⟩

end StorageCalls.Delegation
