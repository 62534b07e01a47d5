import StorageCalls.World

namespace StorageCalls.Scenario

structure BudgetView where
  store : Option RequestStore
  sites : List String

inductive Answer where
  | done
  /-- The step needs a store, and its context has none. -/
  | untracked
  /-- The step refers to something that there is not. -/
  | unknownName
  | failed (error : CallError)
  | rejected (status : Status)
  /-- The step was cut off by an unwinding. -/
  | unwound
  | context (c : RequestContext)
  | position (callSite : Option String) (signature : String)
  | dropped (found : Bool)
  | value (b : Bool)
  | budget (view : BudgetView)
  | count (n : Nat)
  | siteCounts (actual enforced : Nat)
  | worstStacks (count : Nat) (signatures : List String)
  | depth (n : Nat)
  | previous (b : Bool)
  | session (id : String)
  | detailCount (n : Nat)
  | details (records : List CallRecord)
  | queryTime (d : Duration)
  | resolved (s : ResolvedStorage)
  | token (t : String)
  | connection (handle : Nat) (c : Connection)
  /-- What simultaneous requests for one connection all got. -/
  | shared (first : Answer)
  | response (bytes : Bytes)
  | health (h : HealthStatus)
  | size (n : Nat)
  | builds (targets : List ChannelTarget)
  | invocations (sent : List Invocation)
  | lastInvocation (sent : Option Invocation)
  | options (o : CallOptions)
  | description (text : String)
  /-- A scope answers with the answers of its steps, each with its events. -/
  | scope (answers : List (Answer × List Event)) (unwound : Bool)
  | repeated (answers : List Answer)

instance : Inhabited Answer := ⟨.done⟩

def Answer.ofResult {α : Type} (f : α → Answer) : Except CallError α → Answer
  | .ok a => f a
  | .error e => .failed e

end StorageCalls.Scenario
