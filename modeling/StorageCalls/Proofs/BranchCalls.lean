import StorageCalls.Proofs.Branches

namespace StorageCalls

open Scenario (Answer)
open Branch

namespace Branch

def isRefused : Answer → Bool
  | .failed (.tooManyInvocations _) => true
  | _ => false

/-- What is seen of one call: where it is counted and with which stack, what it is answered, what is
sent for it, and what is added to the details. -/
structure Report where
  branch : Nat
  site : String
  signature : String
  answer : Answer
  sent : List Invocation
  details : List CallRecord

/-- What the branch of a call alone leads one to expect of the call. -/
structure Expectation where
  branch : Nat
  site : String
  signature : String
  callSite : Option String
  sent : List Invocation

/-- A call may fail before it is sent, and it may not be put on record. -/
structure Expectation.MetBy (e : Expectation) (r : Report) : Prop where
  branch : r.branch = e.branch
  site : r.site = e.site
  signature : r.signature = e.signature
  sent : r.sent = [] ∨ r.sent = e.sent
  details : ∀ d ∈ r.details, d.callSite = e.callSite

def expectation (x : Client) (env : Surroundings) (s : CallState) (b : Nat) (v : Option View)
    (step : Step) : Option Expectation := do
  let c ← step.callOf x
  let v ← v
  return ⟨b, c.rpc, v.context.signature, v.context.callSite, x.letThrough env v.context c s⟩

def expectations (x : Client) (env : Surroundings) (s : CallState) (b : Nat) :
    Option View → List Step → List Expectation
  | _, [] => []
  | v, step :: steps =>
    (expectation x env s b v step).toList ++ expectations x env s b (v.map (·.after step)) steps

theorem isRefused_ofResult {α : Type} {f : α → Answer} (hf : ∀ a, isRefused (f a) = false)
    (r : Except CallError α) : isRefused (.ofResult f r) = isRefusal r := by
  cases r with
  | ok a => exact hf a
  | error e => cases e <;> rfl

end Branch

namespace Process

variable {p q : Process} {x : Client} {k i : Nat} {ctx : RequestContext} {c : Call}

def report (p : Process) (k : Nat) (x : Client) (t : Turn) : Option Report := do
  let c ← t.step.callOf x
  let ctx ← p.world.contexts[t.branch]?
  let r := p.take x t
  return {
    branch := t.branch
    site := c.rpc
    signature := ctx.signature
    answer := r.2
    sent := r.1.invocations.drop p.invocations.length
    details := (r.1.storeAt k).details.drop (p.storeAt k).details.length }

def reports (p : Process) (k : Nat) (x : Client) : List Turn → List Report
  | [] => []
  | t :: turns => (p.report k x t).toList ++ (p.take x t).1.reports k x turns

/-- What a call in a context on a store comes to. -/
structure Exchanges (p : Process) (k : Nat) (x : Client) (env : Surroundings) (ctx : RequestContext)
    (c : Call) (r : Process × Answer) : Prop where
  refused : isRefused r.2 =
    (Budget.refusal x.isEnforcing ctx.signature c.rpc (p.storeAt k)).isSome
  budget : (r.1.storeAt k).budgetPart =
    (Budget.charge x.isEnforcing ctx.signature c.rpc (p.storeAt k)).budgetPart
  sends : ∃ new, r.1.invocations = p.invocations ++ new ∧
    (new = [] ∨ new = x.letThrough env ctx c (p.stateOn k))
  notes : ∃ new, (r.1.storeAt k).details = (p.storeAt k).details ++ new ∧
    ∀ d ∈ new, d.callSite = ctx.callSite
  outlook : x.outlook (r.1.stateOn k) = x.outlook (p.stateOn k)

theorem exchanges_within {α : Type} {y : RequestContext → Stage CallState α} {f : α → Answer}
    {env : Surroundings} (hs : p.Sound) (hctx : p.contextOn k i = some ctx)
    (hy : x.Makes env ctx c (y ctx)) (hf : ∀ a, isRefused (f a) = false) :
    p.Exchanges k x env ctx c (p.within i y f) := by
  have houtlook := hy.outlook (p.stateOn k)
  have hstore : ((y ctx).run (p.stateOn k)).state.store.isSome := by
    have h := congrArg (fun o => o.session.isSome) houtlook
    simpa [Client.outlook, stateOn] using h
  have hstate := stateOn_within (f := f) hs hctx hstore
  have hat : ((y ctx).run (p.stateOn k)).state.store = some ((p.within i y f).1.storeAt k) := by
    rw [← hstate]
    rfl
  constructor
  · rw [answer_within hs hctx, isRefused_ofResult hf, hy.refusal]
    rfl
  · have h := hy.accounts (p.stateOn k)
    rw [CallState.budget, hat, Option.map_some] at h
    exact Option.some.inj h
  · obtain ⟨new, hnew, hsent⟩ := hy.sends (p.stateOn k)
    refine ⟨new, ?_, hsent⟩
    rw [← hstate] at hnew
    exact hnew
  · obtain ⟨new, hnew, hsite⟩ := hy.notes (p.stateOn k)
    refine ⟨new, ?_, hsite⟩
    rw [Client.detailsOf, hat] at hnew
    exact hnew
  · rw [hstate]
    exact houtlook

variable {t : Turn}

theorem Exchanges.of_weathered {env : Surroundings} {r : Process × Answer}
    (h : (p.weathered t).Exchanges k x env ctx c r) : p.Exchanges k x env ctx c r where
  refused := h.refused
  budget := h.budget
  sends := by
    obtain ⟨new, hnew, hsent⟩ := h.sends
    have hsame : x.letThrough env ctx c ((p.weathered t).stateOn k) =
        x.letThrough env ctx c (p.stateOn k) := Client.letThrough_congr rfl rfl rfl
    rw [hsame] at hsent
    exact ⟨new, hnew, hsent⟩
  notes := h.notes
  outlook := h.outlook

theorem exchanges_take (hs : p.Sound) (hctx : p.contextOn k t.branch = some ctx)
    (hc : t.step.callOf x = some c) :
    p.Exchanges k x (p.surroundings t.files t.elapsed) ctx c (p.take x t) := by
  have hw : (p.weathered t).Sound := hs.perform _
  apply Exchanges.of_weathered (t := t)
  rw [take, operation]
  cases hstep : t.step with
  | enter label => rw [hstep] at hc; cases hc
  | drop n => rw [hstep] at hc; cases hc
  | call c' =>
    rw [hstep] at hc
    cases hc
    exact exchanges_within hw hctx (x.makes_call _ ctx c) fun _ => rfl
  | checkHealth storage =>
    rw [hstep] at hc
    cases hc
    exact exchanges_within hw hctx (x.makes_checkHealth _ ctx storage) fun _ => rfl

/-- A step that is no call changes nothing that calls go by. -/
theorem stateOn_take_of_not_call (hc : t.step.callOf x = none) (k : Nat) :
    (p.take x t).1.stateOn k = (p.weathered t).stateOn k := by
  rw [take, operation]
  cases hstep : t.step with
  | enter label =>
    simp only [perform, World.enterFrame, keep]
    cases (p.weathered t).world.contexts[t.branch]? <;> rfl
  | drop n =>
    simp only [perform]
    cases hg : (p.weathered t).guards[place (Guard.frameOf t.branch) p.guards n]? with
    | none => rfl
    | some g =>
      have hframe : ∃ id, g = .frame t.branch id ∧ _ := frame_at_place hg
      obtain ⟨id, rfl, -⟩ := hframe
      rfl
  | call c' => rw [hstep] at hc; cases hc
  | checkHealth storage => rw [hstep] at hc; cases hc

theorem outlook_take (hs : p.Sound) (hctx : (p.contextOn k t.branch).isSome) :
    x.outlook ((p.take x t).1.stateOn k) = x.outlook (p.stateOn k) := by
  obtain ⟨ctx, hctx⟩ := Option.isSome_iff_exists.1 hctx
  cases hc : t.step.callOf x with
  | some c => exact (exchanges_take hs hctx hc).outlook
  | none =>
    rw [stateOn_take_of_not_call hc]
    rfl

end Process

end StorageCalls
