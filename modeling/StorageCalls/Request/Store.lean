import StorageCalls.Call.Status
import StorageCalls.Table
import StorageCalls.Time.Duration

namespace StorageCalls

abbrev Tally := Table Nat

namespace Tally

def count (t : Tally) (key : String) : Nat := (t.get? key).getD 0

def increment (t : Tally) (key : String) : Tally := t.insert key (count t key + 1)

theorem count_increment (t : Tally) (key k : String) :
    count (increment t key) k = count t k + if k = key then 1 else 0 := by
  by_cases h : k = key
  · subst h
    simp [count, increment, Table.get?_insert]
  · simp [count, increment, Table.get?_insert, h]

def highest (t : Tally) : Nat := t.entries.foldl (fun m e => max m e.2) 0

/-- The highest count, with every text that has it in ascending order. -/
def worst (t : Tally) : Nat × List String :=
  if highest t = 0 then (0, [])
  else (highest t, (t.entries.filter fun e => e.2 == highest t).map (·.1))

end Tally

inductive CallResult where
  | ok
  | failed (code : StatusCode)
  deriving DecidableEq, Repr

structure CallRecord where
  callSite : Option String
  storage : String
  service : String
  rpc : String
  duration : Duration
  result : CallResult
  deriving DecidableEq

structure RequestStore where
  actual : Tally
  enforced : Tally
  actualTotal : Nat
  enforcedTotal : Nat
  exemptions : Nat
  stackTally : Tally
  refNameCaching : Bool
  quarantined : Bool
  sessionId : Option String
  keepsDetails : Bool
  details : List CallRecord
  queryTime : Duration

namespace RequestStore

def empty : RequestStore where
  actual := .empty
  enforced := .empty
  actualTotal := 0
  enforcedTotal := 0
  exemptions := 0
  stackTally := .empty
  refNameCaching := false
  quarantined := false
  sessionId := none
  keepsDetails := false
  details := []
  queryTime := .zero

instance : Inhabited RequestStore := ⟨empty⟩

def actualCount (s : RequestStore) (site : String) : Nat := Tally.count s.actual site

def enforcedCount (s : RequestStore) (site : String) : Nat := Tally.count s.enforced site

def countActual (s : RequestStore) (site : String) : RequestStore :=
  { s with actualTotal := s.actualTotal + 1, actual := Tally.increment s.actual site }

def countEnforced (s : RequestStore) (site : String) : RequestStore :=
  { s with enforcedTotal := s.enforcedTotal + 1, enforced := Tally.increment s.enforced site }

/-- Sets the totals back. The counts of single call sites stay. -/
def resetTotals (s : RequestStore) : RequestStore :=
  { s with actualTotal := 0, enforcedTotal := 0 }

def recordStack (s : RequestStore) (signature : String) : RequestStore :=
  { s with stackTally := Tally.increment s.stackTally signature }

def stackCount (s : RequestStore) (signature : String) : Nat := Tally.count s.stackTally signature

def worstStacks (s : RequestStore) : Nat × List String := Tally.worst s.stackTally

def beginExemption (s : RequestStore) : RequestStore := { s with exemptions := s.exemptions + 1 }

def endExemption (s : RequestStore) : RequestStore := { s with exemptions := s.exemptions - 1 }

def setRefNameCaching (s : RequestStore) (allowed : Bool) : RequestStore :=
  { s with refNameCaching := allowed }

def markQuarantined (s : RequestStore) : RequestStore := { s with quarantined := true }

def keepDetails (s : RequestStore) : RequestStore := { s with keepsDetails := true }

def addDetail (s : RequestStore) (r : CallRecord) : RequestStore :=
  if s.keepsDetails then { s with details := s.details ++ [r] } else s

def addQueryTime? (s : RequestStore) (d : Duration) : Option RequestStore := do
  return { s with queryTime := ← s.queryTime.add? d }

/-- The time of all calls that succeeded, among those whose details are kept. -/
def detailTime? (s : RequestStore) : Option Duration :=
  (s.details.filter fun r => r.result == .ok).foldlM (fun t r => t.add? r.duration) .zero

end RequestStore

end StorageCalls
