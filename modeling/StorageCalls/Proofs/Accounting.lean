import StorageCalls.Budget.Ceiling
import StorageCalls.Proofs.Tallies

namespace StorageCalls

namespace RequestStore

def addActualTotal (s : RequestStore) : RequestStore := { s with actualTotal := s.actualTotal + 1 }

def addActual (s : RequestStore) (site : String) : RequestStore :=
  { s with actual := Tally.increment s.actual site }

def addEnforcedTotal (s : RequestStore) : RequestStore :=
  { s with enforcedTotal := s.enforcedTotal + 1 }

def addEnforced (s : RequestStore) (site : String) : RequestStore :=
  { s with enforced := Tally.increment s.enforced site }

theorem countActual_eq (s : RequestStore) (site : String) :
    s.countActual site = s.addActualTotal.addActual site := rfl

theorem countEnforced_eq (s : RequestStore) (site : String) :
    s.countEnforced site = s.addEnforcedTotal.addEnforced site := rfl

theorem actualCount_addActual (s : RequestStore) (site k : String) :
    (s.addActual site).actualCount k = s.actualCount k + if k = site then 1 else 0 :=
  Tally.count_increment s.actual site k

theorem enforcedCount_addEnforced (s : RequestStore) (site k : String) :
    (s.addEnforced site).enforcedCount k = s.enforcedCount k + if k = site then 1 else 0 :=
  Tally.count_increment s.enforced site k

def stackTotal (s : RequestStore) : Nat := Tally.total s.stackTally

theorem stackTotal_recordStack (s : RequestStore) (signature : String) :
    (s.recordStack signature).stackTotal = s.stackTotal + 1 :=
  Tally.total_increment s.stackTally signature

end RequestStore

namespace Budget

/-- How far the accounting for a call has come. What a call read on its way it keeps, and it can be
out of date by the time it is used. -/
inductive Progress where
  | waiting
  | begun
  | counted (invocations : Nat)
  | liable (invocations : Nat)
  | totalled (invocations : Nat)
  | charged (invocations enforced : Nat)
  | recorded (invocations enforced : Nat)
  | exceeding (enforced : Nat) (overrun : Overrun)
  | finished (events : List Event) (result : Except CallError Unit)

namespace Progress

def rank : Progress → Nat
  | waiting => 0
  | begun => 1
  | counted _ => 2
  | liable _ => 3
  | totalled _ => 4
  | charged .. => 5
  | recorded .. => 6
  | exceeding .. => 7
  | finished .. => 8

def isFinished : Progress → Bool
  | finished .. => true
  | _ => false

end Progress

open Progress

structure Accounting where
  site : String
  signature : String
  progress : Progress

def advance (enforcing : Bool) (c : Accounting) (s : RequestStore) : RequestStore × Progress :=
  match c.progress with
  | waiting => (s.addActualTotal, begun)
  | begun => (s.addActual c.site, counted ((s.addActual c.site).actualCount c.site))
  | counted invocations =>
    if !enforcing then
      let events :=
        if invocations = ceiling + 1 then [.unenforcedOverrun c.site invocations ceiling] else []
      (s, finished events (.ok ()))
    else if 0 < s.exemptions then (s, finished [] (.ok ()))
    else (s, liable invocations)
  | liable invocations => (s.addEnforcedTotal, totalled invocations)
  | totalled invocations =>
    (s.addEnforced c.site, charged invocations ((s.addEnforced c.site).enforcedCount c.site))
  | charged invocations enforced =>
    (s.recordStack c.signature,
      if enforced ≤ ceiling then finished [] (.ok ()) else recorded invocations enforced)
  | recorded invocations enforced =>
    (s, exceeding enforced ⟨c.site, invocations, s.worstStacks.1, s.worstStacks.2⟩)
  | exceeding enforced overrun =>
    (s, finished [.overrun overrun enforced s.enforcedTotal] (.error (.tooManyInvocations overrun)))
  | finished events result => (s, finished events result)

/-- Calls that are accounted for at the same time, with the store that they share. -/
structure FanOut where
  store : RequestStore
  calls : List Accounting

namespace FanOut

def start (store : RequestStore) (calls : List (String × String)) : FanOut :=
  ⟨store, calls.map fun c => ⟨c.1, c.2, waiting⟩⟩

def step (enforcing : Bool) (m : FanOut) (n : Nat) : FanOut :=
  match m.calls[n]? with
  | none => m
  | some c =>
    let next := advance enforcing c m.store
    ⟨next.1, m.calls.set n { c with progress := next.2 }⟩

/-- The steps in the order of a schedule, which names the call whose turn it is. Calls of one branch
follow one another, and that is one way to order the steps. -/
def run (enforcing : Bool) (m : FanOut) (schedule : List Nat) : FanOut :=
  schedule.foldl (step enforcing) m

theorem step_alone (enforcing : Bool) (s : RequestStore) (c : Accounting) :
    step enforcing ⟨s, [c]⟩ 0 =
      ⟨(advance enforcing c s).1, [{ c with progress := (advance enforcing c s).2 }]⟩ := rfl

/-- Alone, a call does what accounting for it at once does. -/
theorem run_alone (enforcing : Bool) (site signature : String) (s : RequestStore) :
    (start s [(site, signature)]).run enforcing (List.replicate 8 0) =
      let o := enforce enforcing signature site s
      ⟨o.state, [⟨site, signature, finished o.events o.result⟩]⟩ := by
  have hx : (s.addActualTotal.addActual site).exemptions = s.exemptions := rfl
  have hc : ∀ t : RequestStore,
      (t.recordStack signature).enforcedCount site = t.enforcedCount site := fun _ => rfl
  simp only [run, start, List.replicate, List.foldl, List.map, step_alone, advance, enforce, hx,
    RequestStore.countActual_eq, RequestStore.countEnforced_eq, hc]
  cases enforcing with
  | false =>
    simp only [Bool.not_false, if_true]
    rfl
  | true =>
    by_cases h : 0 < s.exemptions
    · simp only [h, Bool.not_true, Bool.false_eq_true, if_true, if_false]
    · by_cases hle : ((s.addActualTotal.addActual site).addEnforcedTotal.addEnforced
          site).enforcedCount site ≤ ceiling
      · simp only [h, hle, Bool.not_true, Bool.false_eq_true, if_true, if_false]
      · simp only [h, hle, Bool.not_true, Bool.false_eq_true, if_false]
        rfl

end FanOut

end Budget

end StorageCalls
