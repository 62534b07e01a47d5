import StorageCalls.Proofs.CallPhases
import StorageCalls.Proofs.DelegationRoundTrip
import StorageCalls.Proofs.MetadataEntries

namespace StorageCalls

theorem RequestContext.callSite_eq_some_iff {ctx : RequestContext} {site : String} :
    ctx.callSite = some site ↔
      ∃ outer frame inner, ctx.frames.entries = outer ++ frame :: inner ∧ frame.label = site ∧
        ¬ Frames.Frame.isInternal frame ∧ ∀ f ∈ inner, Frames.Frame.isInternal f := by
  rw [callSite, Frames.callSite, Frames.labels, List.getLast?_map, List.getLast?_filter,
    Option.map_eq_some_iff]
  simp only [List.find?_eq_some_iff_append]
  constructor
  · rintro ⟨frame, ⟨hframe, inner, outer, hsplit, hinner⟩, hlabel⟩
    refine ⟨outer.reverse, frame, inner.reverse, ?_, hlabel, by simpa using hframe, ?_⟩
    · rw [← List.reverse_reverse ctx.frames.entries, hsplit]
      simp
    · simpa using hinner
  · rintro ⟨outer, frame, inner, hsplit, hlabel, hframe, hinner⟩
    refine ⟨frame, ⟨by simpa using hframe, inner.reverse, outer.reverse, ?_, ?_⟩, hlabel⟩
    · rw [hsplit]
      simp
    · simpa using hinner

/-- The deadline of the request counts when it comes before the end of the timeout. -/
theorem Deadline.isLimited_iff {now : Instant} {kind : RequestKind} {timeout : Duration} :
    (compute now kind timeout).isLimited ↔
      timeout.isZero = false ∧ ∃ limit, kind = .web (some limit) ∧
        ∀ regular, now.add? timeout = some regular → limit < regular := by
  unfold compute
  cases hz : timeout.isZero with
  | true => simp [isLimited, unbounded]
  | false =>
    match kind with
    | .background => simp [isLimited]
    | .web none => cases now.add? timeout <;> simp [isLimited, unbounded]
    | .web (some limit) =>
      cases now.add? timeout with
      | none => simp [isLimited]
      | some regular => by_cases hlt : limit < regular <;> simp [isLimited, hlt]

namespace ClientConfig

def readdress (c : ClientConfig) (storage address : String) : ClientConfig :=
  match c.storage? storage with
  | none => c
  | some s => { c with storages := c.storages.insert storage { s with address } }

variable {c : ClientConfig} {storage other address : String}

theorem storage?_readdress_of_ne (h : other ≠ storage) :
    (c.readdress storage address).storage? other = c.storage? other := by
  unfold readdress
  split
  · rfl
  · rw [storage?, Table.get?_insert, if_neg h, storage?]

theorem storage?_readdress_self :
    (c.readdress storage address).storage? storage =
      (c.storage? storage).map fun s => { s with address } := by
  unfold readdress
  split
  · next h =>
    rw [h]
    rfl
  · next s h => rw [storage?, Table.get?_insert, if_pos rfl, h, Option.map_some]

theorem token_readdress : (c.readdress storage address).token = c.token := by
  unfold readdress
  split <;> rfl

theorem clientName_readdress : (c.readdress storage address).clientName = c.clientName := by
  unfold readdress
  split <;> rfl

theorem effectiveToken?_readdress (s : StorageConfig) :
    (c.readdress storage address).effectiveToken? s = c.effectiveToken? s := by
  rw [effectiveToken?, effectiveToken?, token_readdress]

theorem tokenOf_readdress (name : String) :
    (c.readdress storage address).tokenOf name = c.tokenOf name := by
  rw [tokenOf_eq, tokenOf_eq]
  simp only [effectiveToken?_readdress]
  by_cases h : name = storage
  · rw [h, storage?_readdress_self]
    cases c.storage? storage <;> rfl
  · rw [storage?_readdress_of_ne h]

theorem resolve_readdress_of_ne (h : other ≠ storage) :
    (c.readdress storage address).resolve other = c.resolve other := by
  rw [resolve_eq, resolve_eq, storage?_readdress_of_ne h, tokenOf_readdress]

end ClientConfig

namespace Client

variable (x : Client) (env : Surroundings) (ctx : RequestContext) (s : CallState)
  (storage : String) (timeout : Duration) (remote : Option String)

inductive Entry : String → String → Prop
  | authorization {token : String} (h : x.config.HasToken storage token) :
      Entry Metadata.authorization (authorizationToken token env.now.unixSeconds)
  | clientName : Entry Metadata.clientName x.config.clientName
  /-- The innermost frame that does not belong to the client itself. -/
  | callSite {outer inner : List Frame} {frame : Frame}
      (h : ctx.frames.entries = outer ++ frame :: inner)
      (hframe : ¬ Frames.Frame.isInternal frame)
      (hinner : ∀ f ∈ inner, Frames.Frame.isInternal f) : Entry Metadata.callSite frame.label
  | correlationId {id : String} (h : ctx.correlationId = some id) :
      Entry Metadata.correlationId id
  | sessionId : Entry Metadata.sessionId (x.nextSession s)
  | username {name : String} (h : ctx.caller.username = some name) : Entry Metadata.username name
  | userId {id : String} (h : ctx.caller.userId = some id) : Entry Metadata.userId id
  | remoteIp {ip : String} (h : ctx.caller.remoteIp = some ip) : Entry Metadata.remoteIp ip
  | flag {flag : String} {enabled : Bool} (h : x.flags.Counts flag enabled) :
      Entry (Metadata.flagKey flag) (settingText enabled)
  | servers {server : StorageConfig} {resolved : ResolvedStorage}
      (hr : remote = some resolved.name) (hs : x.config.storage? resolved.name = some server)
      (ha : StorageAddress.parse server.address = .ok resolved.address)
      (ht : x.config.HasToken resolved.name resolved.token) :
      Entry Metadata.servers (Delegation.encode resolved)
  | routingPolicy {store : RequestStore} (h : s.store = some store) (hq : store.quarantined) :
      Entry Metadata.routingPolicy Metadata.primaryOnly
  | deadlineType {limit : Instant} (hz : timeout.isZero = false)
      (hkind : ctx.kind = .web (some limit))
      (h : ∀ regular, env.now.add? timeout = some regular → limit < regular) :
      Entry Metadata.deadlineType DeadlineKind.limited.name

/-- Why there are no options for a call. Nothing is known of the remote storage unless there is a
token for the called one. -/
inductive Refused : ConfigurationFault → Prop
  | target {fault : ConfigurationFault} (h : x.config.TokenFault storage fault) : Refused fault
  | remote {name token : String} {fault : ConfigurationFault}
      (ht : x.config.HasToken storage token) (hr : remote = some name)
      (h : x.config.ResolveFault name fault) : Refused fault

structure Describes (options : CallOptions) : Prop where
  metadata : ∀ key value, options.metadata.get? key = some value ↔
    Entry x env ctx s storage timeout remote key value
  deadline : options.deadline = (Deadline.compute env.now ctx.kind timeout).expiresAt
  /-- The called node learns the address and the token of the remote storage, and nothing else. -/
  delegated : ∀ name, remote = some name → ∃ value server token table,
    options.metadata.get? Metadata.servers = some value ∧
      x.config.storage? name = some server ∧ x.config.HasToken name token ∧
      Delegation.decode value = .ok table ∧
      table.toList = [(name, ⟨Text.trim server.address, token⟩)]

/-- What comes of building the options for a call. -/
structure Specified : Prop where
  refused : ∀ e, ((x.buildOptions env ctx storage timeout remote).run s).result = .error e ↔
    ∃ fault, e = .configuration fault ∧ Refused x storage remote fault
  built : ∀ options, ((x.buildOptions env ctx storage timeout remote).run s).result = .ok options →
    Describes x env ctx s storage timeout remote options
  /-- A storage is called with no regard to its address, unless it is also the remote one. -/
  address : remote ≠ some storage → ∀ address,
    let x' : Client := { x with config := x.config.readdress storage address }
    (x'.buildOptions env ctx storage timeout remote).run s =
      (x.buildOptions env ctx storage timeout remote).run s

def callerEntries (token session : String) : List (String × Option String) :=
  [(Metadata.authorization, some (authorizationToken token env.now.unixSeconds)),
    (Metadata.clientName, some x.config.clientName),
    (Metadata.callSite, ctx.callSite),
    (Metadata.correlationId, ctx.correlationId),
    (Metadata.sessionId, some session),
    (Metadata.username, ctx.caller.username),
    (Metadata.userId, ctx.caller.userId),
    (Metadata.remoteIp, ctx.caller.remoteIp)]

def delegated : Option String :=
  remote.bind fun name => (x.config.resolve name).toOption.map Delegation.encode

def callEntries (delegated : Option String) (quarantined : Bool) (d : Deadline) :
    List (String × Option String) :=
  [(Metadata.servers, delegated),
    (Metadata.routingPolicy, if quarantined then some Metadata.primaryOnly else none),
    (Metadata.deadlineType, if d.isLimited then some DeadlineKind.limited.name else none)]

variable {x env ctx s storage timeout remote}

theorem addFlags_eq (flags : FeatureFlags) (m : Metadata) :
    addFlags flags.forwardedList m = m.writeAll flags.entries := by
  rw [addFlags, Metadata.writeAll, FeatureFlags.entries, List.foldl_map]
  rfl

theorem identity_eq (token session : String) :
    x.identity env ctx token session =
      Metadata.writeAll .empty (x.callerEntries env ctx token session ++ x.flags.entries) := by
  rw [Metadata.writeAll_append, ← addFlags_eq]
  rfl

theorem delegation_eq_ok {m m' : Metadata} (h : x.delegation m remote = .ok m') :
    m' = m.insertSome Metadata.servers (x.delegated remote) ∧
      ∀ name, remote = some name → ∃ resolved, x.config.resolve name = .ok resolved := by
  cases remote with
  | none =>
    cases h
    exact ⟨rfl, fun name hname => by cases hname⟩
  | some name =>
    simp only [delegation] at h
    cases hr : x.config.resolve name with
    | error fault =>
      rw [hr] at h
      cases h
    | ok resolved =>
      rw [hr] at h
      cases h
      refine ⟨by simp [delegated, hr, Except.toOption]; rfl, ?_⟩
      rintro _ ⟨⟩
      exact ⟨resolved, hr⟩

theorem delegation_eq_error_iff {m : Metadata} {fault : ConfigurationFault} :
    x.delegation m remote = .error fault ↔
      ∃ name, remote = some name ∧ x.config.resolve name = .error fault := by
  cases remote with
  | none => simp [delegation]
  | some name =>
    simp only [delegation, Option.some.injEq, exists_eq_left']
    cases x.config.resolve name <;> simp [bind, Except.bind, pure, Except.pure]

theorem labelDeadline_routing_eq (m : Metadata) (delegated : Option String) (quarantined : Bool)
    (d : Deadline) :
    labelDeadline d (routing quarantined (m.insertSome Metadata.servers delegated)) =
      m.writeAll (callEntries delegated quarantined d) := by
  unfold labelDeadline routing
  cases quarantined <;> cases h : d.isLimited <;>
    simp [callEntries, Metadata.writeAll, Metadata.insertSome, h]

theorem delegated_eq_some_iff {value : String} :
    x.delegated remote = some value ↔
      ∃ (resolved : ResolvedStorage) (server : StorageConfig),
        remote = some resolved.name ∧ x.config.storage? resolved.name = some server ∧
          StorageAddress.parse server.address = .ok resolved.address ∧
          x.config.HasToken resolved.name resolved.token ∧ Delegation.encode resolved = value := by
  rw [delegated, Option.bind_eq_some_iff]
  simp only [Option.map_eq_some_iff, toOption_eq_some_iff]
  constructor
  · rintro ⟨name, hr, resolved, hresolved, hvalue⟩
    obtain ⟨server, hs, ha, ht, rfl⟩ := ClientConfig.resolve_eq_ok_iff.1 hresolved
    have htoken := ClientConfig.tokenOf_eq_ok_iff.2 ⟨server, hs, ht⟩
    exact ⟨resolved, server, hr, hs, ha, ClientConfig.tokenOf_eq_ok_iff_hasToken.1 htoken, hvalue⟩
  · rintro ⟨resolved, server, hr, hs, ha, htoken, hvalue⟩
    refine ⟨resolved.name, hr, resolved, ?_, hvalue⟩
    obtain ⟨server', hs', ht⟩ :=
      ClientConfig.tokenOf_eq_ok_iff.1 (ClientConfig.tokenOf_eq_ok_iff_hasToken.2 htoken)
    obtain rfl : server = server' := Option.some.inj (hs.symm.trans hs')
    exact ClientConfig.resolve_eq_ok_iff.2 ⟨server, hs, ha, ht, rfl⟩

/-- The entries that are written, flags apart, are those of the specification. -/
theorem entry_iff {token key value : String} (ht : x.config.tokenOf storage = .ok token) :
    Entry x env ctx s storage timeout remote key value ↔
      (key, some value) ∈ x.callerEntries env ctx token (x.nextSession s) ++
          callEntries (x.delegated remote) (s.store.any (·.quarantined))
            (Deadline.compute env.now ctx.kind timeout) ∨
        ∃ flag enabled, x.flags.Counts flag enabled ∧ Metadata.flagKey flag = key ∧
          settingText enabled = value := by
  constructor
  · intro h
    cases h with
    | flag h => exact .inr ⟨_, _, h, rfl, rfl⟩
    | authorization h =>
      have htoken := ht.symm.trans (ClientConfig.tokenOf_eq_ok_iff_hasToken.2 h)
      exact .inl (by simp [callerEntries, Except.ok.inj htoken])
    | clientName => exact .inl (by simp [callerEntries])
    | callSite h hframe hinner =>
      have hsite := RequestContext.callSite_eq_some_iff.2 ⟨_, _, _, h, rfl, hframe, hinner⟩
      exact .inl (by simp [callerEntries, hsite])
    | correlationId h => exact .inl (by simp [callerEntries, h])
    | sessionId => exact .inl (by simp [callerEntries])
    | username h => exact .inl (by simp [callerEntries, h])
    | userId h => exact .inl (by simp [callerEntries, h])
    | remoteIp h => exact .inl (by simp [callerEntries, h])
    | servers hr hs ha ht =>
      have hvalue := delegated_eq_some_iff.2 ⟨_, _, hr, hs, ha, ht, rfl⟩
      exact .inl (by simp [callEntries, hvalue])
    | routingPolicy h hq => exact .inl (by simp [callEntries, h, hq])
    | deadlineType hz hkind h =>
      have hlimited := Deadline.isLimited_iff.2 ⟨hz, _, hkind, h⟩
      exact .inl (by simp [callEntries, hlimited])
  · simp only [callerEntries, callEntries, List.cons_append, List.nil_append, List.mem_cons,
      List.not_mem_nil, or_false, Prod.mk.injEq]
    rintro ((⟨rfl, h⟩ | ⟨rfl, h⟩ | ⟨rfl, h⟩ | ⟨rfl, h⟩ | ⟨rfl, h⟩ | ⟨rfl, h⟩ | ⟨rfl, h⟩ | ⟨rfl, h⟩ |
      ⟨rfl, h⟩ | ⟨rfl, h⟩ | ⟨rfl, h⟩) | ⟨flag, enabled, h, rfl, rfl⟩)
    · cases h
      exact .authorization (ClientConfig.tokenOf_eq_ok_iff_hasToken.1 ht)
    · cases h
      exact .clientName
    · obtain ⟨outer, frame, inner, hsplit, rfl, hframe, hinner⟩ :=
        RequestContext.callSite_eq_some_iff.1 h.symm
      exact .callSite hsplit hframe hinner
    · exact .correlationId h.symm
    · cases h
      exact .sessionId
    · exact .username h.symm
    · exact .userId h.symm
    · exact .remoteIp h.symm
    · obtain ⟨resolved, server, hr, hs, ha, htoken, rfl⟩ := delegated_eq_some_iff.1 h.symm
      exact .servers hr hs ha htoken
    · split at h
      · next hq =>
        cases h
        obtain ⟨store, hstore, hq⟩ := (Option.any_eq_true _ _).1 hq
        exact .routingPolicy hstore hq
      · cases h
    · split at h
      · next hlimited =>
        cases h
        obtain ⟨hz, limit, hkind, hlimit⟩ := Deadline.isLimited_iff.1 hlimited
        exact .deadlineType hz hkind hlimit
      · cases h
    · exact .flag h

theorem result_buildOptions_eq_error_iff {e : CallError} :
    ((x.buildOptions env ctx storage timeout remote).run s).result = .error e ↔
      ∃ fault, e = .configuration fault ∧ Refused x storage remote fault := by
  rw [run_buildOptions]
  cases ht : x.config.tokenOf storage with
  | error fault =>
    constructor
    · rintro ⟨⟩
      exact ⟨fault, rfl, .target (ClientConfig.tokenOf_eq_error_iff.1 ht)⟩
    · rintro ⟨fault', rfl, h | ⟨htoken, -, -⟩⟩
      · cases ht.symm.trans (ClientConfig.tokenOf_eq_error_iff.2 h)
        rfl
      · cases ht.symm.trans (ClientConfig.tokenOf_eq_ok_iff_hasToken.2 htoken)
  | ok token =>
    have htoken := ClientConfig.tokenOf_eq_ok_iff_hasToken.1 ht
    -- with a token for the called storage, only the remote one can be at fault
    have hrefused (fault : ConfigurationFault) : Refused x storage remote fault ↔
        x.delegation (x.identity env ctx token (x.nextSession s)) remote = .error fault := by
      rw [delegation_eq_error_iff]
      constructor
      · rintro (h | ⟨-, hr, h⟩)
        · cases ht.symm.trans (ClientConfig.tokenOf_eq_error_iff.2 h)
        · exact ⟨_, hr, ClientConfig.resolve_eq_error_iff.2 h⟩
      · rintro ⟨name, hr, h⟩
        exact .remote htoken hr (ClientConfig.resolve_eq_error_iff.1 h)
    simp only [hrefused]
    cases x.delegation (x.identity env ctx token (x.nextSession s)) remote with
    | error fault => simp [eq_comm]
    | ok m => simp

theorem describes_of_ok {options : CallOptions}
    (h : ((x.buildOptions env ctx storage timeout remote).run s).result = .ok options) :
    Describes x env ctx s storage timeout remote options := by
  rw [run_buildOptions] at h
  cases ht : x.config.tokenOf storage with
  | error fault =>
    rw [ht] at h
    cases h
  | ok token =>
    rw [ht] at h
    cases hd : x.delegation (x.identity env ctx token (x.nextSession s)) remote with
    | error fault =>
      simp only [hd] at h
      cases h
    | ok m =>
      simp only [hd] at h
      cases h
      obtain ⟨rfl, hresolved⟩ := delegation_eq_ok hd
      have hentries (key value : String) :
          (labelDeadline (Deadline.compute env.now ctx.kind timeout)
            (routing (s.store.any (·.quarantined))
              ((x.identity env ctx token (x.nextSession s)).insertSome Metadata.servers
                (x.delegated remote)))).get? key = some value ↔
            Entry x env ctx s storage timeout remote key value := by
        rw [labelDeadline_routing_eq, identity_eq, ← Metadata.writeAll_append, entry_iff ht]
        exact FeatureFlags.get?_writeAll_entries rfl
      refine ⟨hentries, rfl, fun name hr => ?_⟩
      obtain ⟨resolved, hresolved⟩ := hresolved name hr
      obtain ⟨server, hs, ha, htoken, rfl⟩ := ClientConfig.resolve_eq_ok_iff.1 hresolved
      have htoken : x.config.HasToken resolved.name resolved.token :=
        ClientConfig.tokenOf_eq_ok_iff_hasToken.1 (ClientConfig.tokenOf_eq_ok_iff.2 ⟨_, hs, htoken⟩)
      have haddress := StorageAddress.raw_of_parse ha
      exact ⟨_, server, _, _, (hentries _ _).2 (.servers hr hs ha htoken), hs, htoken,
        Delegation.decode_encode_self resolved, haddress ▸ rfl⟩

theorem buildOptions_readdress (h : remote ≠ some storage) (address : String) :
    let x' : Client := { x with config := x.config.readdress storage address }
    (x'.buildOptions env ctx storage timeout remote).run s =
      (x.buildOptions env ctx storage timeout remote).run s := by
  intro x'
  have htoken : x'.config.tokenOf storage = x.config.tokenOf storage :=
    ClientConfig.tokenOf_readdress storage
  have hidentity (token session : String) :
      x'.identity env ctx token session = x.identity env ctx token session := by
    have hname : x'.config.clientName = x.config.clientName := ClientConfig.clientName_readdress
    simp only [identity, hname]
    rfl
  have hdelegation (m : Metadata) : x'.delegation m remote = x.delegation m remote := by
    cases remote with
    | none => rfl
    | some name =>
      have hne : name ≠ storage := fun hname => h (hname ▸ rfl)
      have hresolve : x'.config.resolve name = x.config.resolve name :=
        ClientConfig.resolve_readdress_of_ne hne
      simp only [delegation, hresolve]
  simp only [run_buildOptions, htoken, hidentity, hdelegation]
  rfl

/-- For every configuration and whatever surrounds the call. -/
theorem options_by_key (x : Client) (env : Surroundings) (ctx : RequestContext) (s : CallState)
    (storage : String) (timeout : Duration) (remote : Option String) :
    Specified x env ctx s storage timeout remote where
  refused _ := result_buildOptions_eq_error_iff
  built _ := describes_of_ok
  address := buildOptions_readdress

end Client

end StorageCalls
