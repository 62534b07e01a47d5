import StorageCalls.Proofs.LimitedRuns
import StorageCalls.Proofs.QuietStages

namespace StorageCalls

open Scenario (Answer)
open Event (unenforced)

namespace Budget

def warningOf (site : String) : Event := .unenforcedOverrun site (ceiling + 1) ceiling

/-- The call that finds the site at the ceiling is warned of, and no other. -/
theorem events_enforce_unenforced (signature site : String) (s : RequestStore) :
    (enforce false signature site s).events =
      if s.actualCount site = ceiling then [warningOf site] else [] := by
  have hcount := actualCount_charge false signature site s site
  rw [charge_of_not_counts _ _ _ _ rfl, if_pos rfl] at hcount
  simp only [enforce, hcount, Nat.add_right_cancel_iff, Bool.not_false, if_true]
  split
  · next h => rw [h, warningOf]
  · rfl

end Budget

/-- The interceptors that an operation brings along leave the warning to the budget. -/
def Operation.Quiet (op : Operation) : Prop := ∀ i ∈ op.interceptors, i.Quiet

/-- What is logged, and the store of the context that it was logged in, if there is one. -/
structure LogLine where
  origin : Option Nat
  event : Event
  deriving DecidableEq

/-- A stage on the world, and what its result is answered with. -/
structure Work where
  {α : Type}
  stage : Stage World α
  answer : α → Answer

namespace Process

variable (p : Process)

def workIn {α : Type} (i : Nat) (x : RequestContext → Stage CallState α) (f : α → Answer) :
    Option Work :=
  p.world.contexts[i]?.map fun ctx => ⟨World.within ctx (x ctx), f⟩

def work? : Operation → Option Work
  | .enforce x i site => p.workIn i (fun ctx => x.enforce ctx site) fun _ => .done
  | .resetCounts i => p.workIn i (fun _ => onStore Budget.resetCounts) fun _ => .done
  | .markQuarantined i => p.workIn i (fun _ => onStore (.update (·.markQuarantined))) fun _ => .done
  | .keepDetails i => p.workIn i (fun _ => onStore (.update (·.keepDetails))) fun _ => .done
  | .sessionId x i => p.workIn i (fun _ => x.sessionId) .session
  | .call x files elapsed i c =>
    p.workIn i (fun ctx => x.call (p.surroundings files elapsed) ctx c) .response
  | .checkHealth x files elapsed i storage =>
    p.workIn i (fun ctx => x.checkHealth (p.surroundings files elapsed) ctx storage) .health
  | .connectionFor r files service storage =>
    some ⟨World.transported (r.connectionFor files service storage), fun c =>
      .connection c.serial c⟩
  | .clear => some ⟨World.transported Registry.clear, fun _ => .done⟩
  | .moveClock step => some ⟨World.moveClock step, fun _ => .done⟩
  | _ => none

def logged (op : Operation) : List Event :=
  match p.work? op with
  | none => []
  | some w => (w.stage.run p.world).events

def log (p : Process) : List Operation → List LogLine
  | [] => []
  | op :: ops => (p.logged op).map (⟨p.originOf op, ·⟩) ++ (p.perform op).1.log ops

/-- The lines of a log that warn of sites above a ceiling that is not enforced. -/
def warnings (ops : List Operation) : List LogLine :=
  (p.log ops).filter (·.event.isUnenforcedOverrun)

variable {p} {k : Nat} {site : String} {op : Operation} {ops : List Operation}

theorem perform_of_work {w : Work} (h : p.work? op = some w) :
    p.perform op = p.onWorld w.stage w.answer := by
  have hin {α : Type} {i : Nat} {x : RequestContext → Stage CallState α} {f : α → Answer}
      (h : p.workIn i x f = some w) : p.within i x f = p.onWorld w.stage w.answer := by
    obtain ⟨ctx, hctx, rfl⟩ := Option.map_eq_some_iff.1 h
    simp only [within, withContext, hctx]
  cases op with
  | startRequest kind tracked caller correlationId => cases h
  | fork i | enterFrame i label | enterScope i scope => cases h
  | drop n => cases h
  | script responses health refusal => cases h
  | connectionFor r files service storage | clear | moveClock step =>
    cases h
    rfl
  | _ => exact hin h

theorem unenforced_within {α : Type} {i : Nat} {x : RequestContext → Stage CallState α}
    {f : α → Answer} (hw : p.work? op = p.workIn i x f) :
    unenforced (p.logged op) = (p.world.contexts[i]?).elim [] fun ctx =>
      unenforced ((x ctx).run (p.world.callState ctx)).events := by
  rw [logged, hw, workIn]
  cases p.world.contexts[i]? <;> rfl

theorem unenforced_within_quiet {α : Type} {i : Nat} {x : RequestContext → Stage CallState α}
    {f : α → Answer} (hw : p.work? op = p.workIn i x f) (hx : ∀ ctx, (x ctx).Quiet) :
    unenforced (p.logged op) = [] := by
  rw [unenforced_within hw]
  cases p.world.contexts[i]? with
  | none => rfl
  | some ctx => exact hx ctx _

/-- Of all operations those warn that are accounted for, and what they warn of comes from the
accounting. -/
theorem unenforced_logged (hp : ∀ conn ∈ p.world.transport.connections, conn.Quiet)
    (hop : op.Quiet) :
    unenforced (p.logged op) = op.accounted?.elim [] fun (x, i, site) =>
      (p.world.contexts[i]?).elim [] fun ctx =>
        unenforced ((x.enforce ctx site).run (p.world.callState ctx)).events := by
  cases op with
  | enforce x i site => exact unenforced_within rfl
  | call x files elapsed i c =>
    rw [unenforced_within rfl]
    exact congrArg _ (funext fun ctx => Client.unenforced_call hop hp)
  | checkHealth x files elapsed i storage =>
    rw [unenforced_within rfl]
    exact congrArg _ (funext fun ctx => Client.unenforced_checkHealth hop hp)
  | resetCounts i => exact unenforced_within_quiet rfl fun _ => .onStore fun _ => rfl
  | markQuarantined i => exact unenforced_within_quiet rfl fun _ => .onStore (.update _)
  | keepDetails i => exact unenforced_within_quiet rfl fun _ => .onStore (.update _)
  | sessionId x i => exact unenforced_within_quiet rfl fun _ => x.quiet_sessionId
  | connectionFor r files service storage =>
    exact r.quiet_connectionFor files service storage p.world.transport
  | clear => rfl
  | moveClock step =>
    change unenforced (World.moveClock step p.world).events = []
    unfold World.moveClock
    split <;> rfl
  | _ => rfl

theorem originOf_of_attempts (h : p.attempts k site op) : p.originOf op = some k := by
  obtain ⟨x, i, ctx, ho, hctx⟩ := attempts_iff.1 h
  obtain ⟨hc, hk⟩ := contextOn_eq_some.1 hctx
  rw [origin_of_context (i := i) ?_ hc, hk]
  cases op <;> cases ho <;> rfl

theorem unenforced_enforce {x : Client} (hx : x.isEnforcing = false) (ctx : RequestContext)
    (site : String) (s : CallState) :
    unenforced ((x.enforce ctx site).run s).events = s.store.elim [] fun store =>
      if store.actualCount site = Budget.ceiling then [Budget.warningOf site] else [] := by
  obtain ⟨_ | store, issued, transport⟩ := s
  · rfl
  · rw [Client.enforce, hx, run_onStore_some _ rfl]
    simp only [Budget.events_enforce_unenforced, Option.elim_some]
    split <;> rfl

/-- Whether an attempt is warned of depends on how many calls of its site there have been. -/
theorem unenforced_of_attempts (hs : p.Sound)
    (hp : ∀ conn ∈ p.world.transport.connections, conn.Quiet) (hoff : op.Enforces false)
    (hop : op.Quiet) (h : p.attempts k site op) :
    unenforced (p.logged op) =
      if (p.storeAt k).actualCount site = Budget.ceiling then [Budget.warningOf site] else [] := by
  obtain ⟨x, i, ctx, ho, hctx⟩ := attempts_iff.1 h
  obtain ⟨hc, hk⟩ := contextOn_eq_some.1 hctx
  have hstore : (p.world.callState ctx).store = some (p.storeAt k) := hs.store? hc hk
  rw [unenforced_logged hp hop, ho]
  simp only [Option.elim_some, hc, unenforced_enforce (hoff.of_accounted ho), hstore]

theorem unenforced_of_not_attempts (hp : ∀ conn ∈ p.world.transport.connections, conn.Quiet)
    (hoff : op.Enforces false) (hop : op.Quiet) (h : ∀ k site, p.attempts k site op = false) :
    unenforced (p.logged op) = [] := by
  rw [unenforced_logged hp hop]
  cases ho : op.accounted? with
  | none => rfl
  | some a =>
    obtain ⟨x, i, site⟩ := a
    simp only [Option.elim_some]
    cases hc : p.world.contexts[i]? with
    | none => rfl
    | some ctx =>
      simp only [Option.elim_some, unenforced_enforce (hoff.of_accounted ho), World.callState,
        World.store?]
      cases hk : ctx.store with
      | none => rfl
      | some k =>
        have hattempt := attempts_iff.2 ⟨x, i, ctx, ho, contextOn_eq_some.2 ⟨hc, hk⟩⟩
        rw [h k site] at hattempt
        cases hattempt

theorem log_append (p : Process) (ops later : List Operation) :
    p.log (ops ++ later) = p.log ops ++ (p.run ops).log later := by
  induction ops generalizing p with
  | nil => rfl
  | cons op ops ih => rw [List.cons_append, log, log, ih, run_cons, List.append_assoc]

theorem warnings_concat (p : Process) (ops : List Operation) (op : Operation) :
    p.warnings (ops ++ [op]) = p.warnings ops ++
      (unenforced ((p.run ops).logged op)).map (⟨(p.run ops).originOf op, ·⟩) := by
  simp only [warnings, log_append, log, List.append_nil, List.filter_append, List.filter_map]
  rfl

theorem answer_enforce_unenforced {x : Client} {i : Nat} (hx : x.isEnforcing = false)
    (hi : i < p.world.contexts.length) : (p.perform (.enforce x i site)).2 = .done := by
  have hnone (ctx : RequestContext) (s : CallState) :
      s.store.bind (Budget.refusal false ctx.signature site) = none := by
    cases s.store <;> rfl
  have hwork : p.work? (.enforce x i site) = some
      ⟨World.within p.world.contexts[i] (x.enforce p.world.contexts[i] site), fun _ => .done⟩ := by
    rw [work?, workIn, List.getElem?_eq_getElem hi, Option.map_some]
  rw [perform_of_work hwork]
  change Answer.ofResult _ ((x.enforce _ site).run (p.world.callState _)).result = .done
  rw [(x.run_enforce _ _ site).2, hx, hnone]
  rfl

/-- What is said of the warnings of a run in which no limits are enforced, and of the operation
after it. -/
structure WarnsOnce (now : Instant) (ops : List Operation) (op : Operation) : Prop where
  nodup : ((start now).warnings ops).Nodup
  /-- Each request warns of the sites that were called more often than the ceiling allows. -/
  mem_iff : ∀ line, line ∈ (start now).warnings ops ↔
    ∃ k site, line = ⟨some k, .unenforcedOverrun site 31 30⟩ ∧
      31 ≤ (start now).countAttempts (fun _ => true) k site ops
  attempt : ∀ k site, ((start now).run ops).attempts k site op →
    unenforced (((start now).run ops).logged op) =
      if (start now).countAttempts (fun _ => true) k site ops = 30 then
        [.unenforcedOverrun site 31 30]
      else []
  other : (∀ k site, ((start now).run ops).attempts k site op = false) →
    unenforced (((start now).run ops).logged op) = []
  admitted : (((start now).run ops).perform op).2.overrun? = none
  answer : ∀ x i site, op = .enforce x i site → i < ((start now).run ops).world.contexts.length →
    (((start now).run ops).perform op).2 = .done

theorem quiet_run (now : Instant) (hquiet : ∀ o ∈ ops, o.Quiet) :
    ∀ conn ∈ ((start now).run ops).world.transport.connections, conn.Quiet := by
  intro conn hconn
  obtain hstart | ⟨o, ho, hmade⟩ := connections_run ops conn hconn
  · cases hstart
  · unfold Connection.Quiet
    rw [hmade]
    exact hquiet o ho

section

variable (now : Instant) (hquiet : ∀ o ∈ ops, o.Quiet) (hoff : op.Enforces false) (hop : op.Quiet)

include hquiet hoff hop

theorem unenforced_attempt_run (h : ((start now).run ops).attempts k site op) :
    unenforced (((start now).run ops).logged op) =
      if (start now).countAttempts (fun _ => true) k site ops = Budget.ceiling then
        [Budget.warningOf site]
      else [] := by
  have hcount : (start now).countAttempts (fun _ => true) k site ops =
      (((start now).run ops).storeAt k).actualCount site := by
    rw [(records_from_start now ops k).actual]
    exact (countP_history fun p op _ => p.countP_isOf_entry k site op).symm
  rw [hcount]
  exact unenforced_of_attempts ((sound_start now).run ops) (quiet_run now hquiet) hoff hop h

theorem unenforced_other_run (h : ∀ k site, ((start now).run ops).attempts k site op = false) :
    unenforced (((start now).run ops).logged op) = [] :=
  unenforced_of_not_attempts (quiet_run now hquiet) hoff hop h

theorem unenforced_run_cases :
    (∃ k site, ((start now).run ops).attempts k site op ∧
      (start now).countAttempts (fun _ => true) k site ops = Budget.ceiling ∧
        unenforced (((start now).run ops).logged op) = [Budget.warningOf site]) ∨
      unenforced (((start now).run ops).logged op) = [] := by
  by_cases h : ∃ k site, ((start now).run ops).attempts k site op
  · obtain ⟨k, site, hattempt⟩ := h
    have hlogged := unenforced_attempt_run now hquiet hoff hop hattempt
    split at hlogged
    · next hcount => exact .inl ⟨k, site, hattempt, hcount, hlogged⟩
    · exact .inr hlogged
  · simp only [not_exists, Bool.not_eq_true] at h
    exact .inr (unenforced_other_run now hquiet hoff hop h)

theorem nodup_unenforced_run : (unenforced (((start now).run ops).logged op)).Nodup := by
  obtain ⟨k, site, -, -, hlogged⟩ | hlogged := unenforced_run_cases now hquiet hoff hop
  · rw [hlogged]
    exact List.nodup_singleton _
  · rw [hlogged]
    exact .nil

/-- What an operation adds to the warnings is a line for the site that comes above the ceiling with
it. -/
theorem mem_unenforced_run (line : LogLine) :
    line ∈ (unenforced (((start now).run ops).logged op)).map
        (⟨((start now).run ops).originOf op, ·⟩) ↔
      ∃ k site, line = ⟨some k, Budget.warningOf site⟩ ∧
        ((start now).run ops).attempts k site op ∧
          (start now).countAttempts (fun _ => true) k site ops = Budget.ceiling := by
  constructor
  · intro hline
    obtain ⟨k, site, hattempt, hcount, hlogged⟩ | hlogged :=
      unenforced_run_cases now hquiet hoff hop
    · rw [hlogged, originOf_of_attempts hattempt] at hline
      exact ⟨k, site, List.mem_singleton.1 hline, hattempt, hcount⟩
    · rw [hlogged] at hline
      cases hline
  · rintro ⟨k, site, rfl, hattempt, hcount⟩
    rw [unenforced_attempt_run now hquiet hoff hop hattempt, if_pos hcount,
      originOf_of_attempts hattempt]
    exact List.mem_singleton_self _

end

theorem warnings_of_run (now : Instant) (hoff : ∀ o ∈ ops, o.Enforces false)
    (hquiet : ∀ o ∈ ops, o.Quiet) :
    ((start now).warnings ops).Nodup ∧ ∀ line, line ∈ (start now).warnings ops ↔
      ∃ k site, line = ⟨some k, Budget.warningOf site⟩ ∧
        Budget.ceiling < (start now).countAttempts (fun _ => true) k site ops := by
  induction ops using List.reverseRecOn with
  | nil => exact ⟨.nil, fun line => by simp [warnings, log, countAttempts]⟩
  | append_singleton ops op ih =>
    simp only [List.mem_append, List.mem_singleton, or_imp, forall_and, forall_eq] at hoff hquiet
    obtain ⟨hnodup, hmem⟩ := ih hoff.1 hquiet.1
    have hnew := mem_unenforced_run now hquiet.1 hoff.2 hquiet.2
    -- A site comes above the ceiling once, with the attempt that finds it at the ceiling.
    have hcount (k : Nat) (site : String) :
        Budget.ceiling < (start now).countAttempts (fun _ => true) k site (ops ++ [op]) ↔
          Budget.ceiling < (start now).countAttempts (fun _ => true) k site ops ∨
            ((start now).run ops).attempts k site op ∧
              (start now).countAttempts (fun _ => true) k site ops = Budget.ceiling := by
      rw [countAttempts_concat, Bool.and_true]
      split
      · next hattempt =>
        simp only [hattempt, true_and]
        omega
      · next hattempt =>
        simp only [hattempt, Bool.false_eq_true, false_and, or_false, Nat.add_zero]
    rw [warnings_concat]
    constructor
    · apply hnodup.append
      · apply List.Nodup.map _ (nodup_unenforced_run now hquiet.1 hoff.2 hquiet.2)
        intro e e' h
        exact congrArg LogLine.event h
      · intro line hold hline
        obtain ⟨k', site', heq, -, hk'⟩ := (hnew line).1 hline
        obtain ⟨k, site, rfl, hk⟩ := (hmem line).1 hold
        cases heq
        omega
    · intro line
      rw [List.mem_append, hmem, hnew]
      simp only [hcount]
      constructor
      · rintro (⟨k, site, hline, h⟩ | ⟨k, site, hline, h⟩)
        · exact ⟨k, site, hline, .inl h⟩
        · exact ⟨k, site, hline, .inr h⟩
      · rintro ⟨k, site, hline, h | h⟩
        · exact .inl ⟨k, site, hline, h⟩
        · exact .inr ⟨k, site, hline, h⟩

/-- Without enforcement a request warns of each site that comes above the ceiling when it does,
once, and nothing is refused. -/
theorem warned_once_of_not_enforcing (now : Instant) (hoff : ∀ o ∈ ops, o.Enforces false)
    (hquiet : ∀ o ∈ ops, o.Quiet) (hoff' : op.Enforces false) (hquiet' : op.Quiet) :
    WarnsOnce now ops op where
  nodup := (warnings_of_run now hoff hquiet).1
  mem_iff := (warnings_of_run now hoff hquiet).2
  attempt _ _ := unenforced_attempt_run now hquiet hoff' hquiet'
  other := unenforced_other_run now hquiet hoff' hquiet'
  admitted := overrun?_of_not_enforcing _ hoff'
  answer x i site ho hi := by
    subst ho
    exact answer_enforce_unenforced (hoff' x rfl) hi

/-- A site that two branches call 31 times, some of them exempt and some after the totals were set
back. -/
theorem warned_once_of_two_branches :
    let x : Client := ⟨⟨default, [.tracing]⟩, default, .fixed false, fun _ => ""⟩
    let ops : List Operation := [.startRequest (.web none) true .nobody none, .fork 0] ++
      .replicate 20 (.enforce x 0 "find") ++ [.enterScope 0 .exemption, .resetCounts 1] ++
      .replicate 10 (.enforce x 1 "find")
    let op : Operation := .enforce x 0 "find"
    (∀ o ∈ op :: ops, o.Enforces false ∧ o.Quiet) ∧ WarnsOnce .epoch ops op ∧
      (start .epoch).warnings (ops ++ [op, op]) = [⟨some 0, .unenforcedOverrun "find" 31 30⟩] := by
  intro x ops op
  have hall : ∀ o ∈ op :: ops, o.Enforces false ∧ o.Quiet := by
    have hcalm : ∀ o ∈ op :: ops, o.client?.all (!·.isEnforcing) ∧ o.interceptors.isEmpty := by
      decide +kernel
    intro o ho
    obtain ⟨hoff, hnone⟩ := hcalm o ho
    rw [Option.all_eq_true] at hoff
    rw [List.isEmpty_iff] at hnone
    refine ⟨fun y hy => by simpa using hoff y hy, fun i hi => ?_⟩
    rw [hnone] at hi
    cases hi
  refine ⟨hall, ?_, by decide +kernel⟩
  exact warned_once_of_not_enforcing .epoch (fun o ho => (hall o (.tail _ ho)).1)
    (fun o ho => (hall o (.tail _ ho)).2) (hall op (.head _)).1 (hall op (.head _)).2

end Process

end StorageCalls
