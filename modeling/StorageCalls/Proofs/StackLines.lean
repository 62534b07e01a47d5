import StorageCalls.Proofs.FrameNumbers
import StorageCalls.Proofs.LimitedRuns
import StorageCalls.Proofs.Tallies

namespace StorageCalls

def RequestContext.cleanedStack (c : RequestContext) : List String :=
  c.frames.stack.filter fun label => ¬ "depot_client::".toList <+: label.toList

namespace CallStack

variable {a b : List String}

def signature (stack : List String) : String := "\n".intercalate stack

/-- The lines of all labels, one after the other. Without labels there is one empty line, as in a
text that is empty. -/
def lines : List String → List (List Char)
  | [] => [[]]
  | stack => stack.flatMap fun label => label.toList.splitOn '\n'

/-- No label has more than one line, and there is not just one label without a text. -/
structure IsPlain (stack : List String) : Prop where
  unbroken : ∀ label ∈ stack, '\n' ∉ label.toList
  told : stack ≠ [""]

theorem splitOn_signature (stack : List String) :
    (signature stack).toList.splitOn '\n' = lines stack := by
  have hsep : "\n".toList = ['\n'] := rfl
  rw [signature, String.toList_intercalate, hsep]
  induction stack with
  | nil => rfl
  | cons label rest ih =>
    cases rest with
    | nil => simp [lines]
    | cons next rest =>
      rw [List.map_cons, List.map_cons, List.intercalate_cons_cons, List.append_assoc,
        List.singleton_append, List.splitOn_append_cons_self, ← List.map_cons, ih]
      rfl

theorem signature_eq_iff : signature a = signature b ↔ lines a = lines b := by
  rw [← splitOn_signature, ← splitOn_signature]
  constructor
  · exact fun h => congrArg (fun s => s.toList.splitOn '\n') h
  · intro h
    have hjoined := congrArg ['\n'].intercalate h
    rw [List.intercalate_splitOn, List.intercalate_splitOn] at hjoined
    exact String.toList_injective hjoined

theorem lines_of_unbroken (hne : a ≠ []) (h : ∀ label ∈ a, '\n' ∉ label.toList) :
    lines a = a.map String.toList := by
  have hlines : lines a = a.flatMap fun label => label.toList.splitOn '\n' := by
    cases a with
    | nil => exact absurd rfl hne
    | cons label rest => rfl
  rw [hlines, ← List.flatMap_singleton' (a.map String.toList), List.flatMap_map]
  exact List.flatMap_congr fun label hlabel => List.splitOn_eq_singleton (h label hlabel)

theorem map_toList_injective : Function.Injective (List.map String.toList) :=
  List.map_injective_iff.2 fun _ _ => String.toList_injective

theorem IsPlain.eq_of_lines (ha : IsPlain a) (hb : IsPlain b) (h : lines a = lines b) : a = b := by
  have hone {stack : List String} (hs : IsPlain stack) (hlines : [[]] = lines stack) :
      stack = [] := by
    by_contra hne
    rw [lines_of_unbroken hne hs.unbroken] at hlines
    apply hs.told
    exact map_toList_injective hlines.symm
  by_cases hnil : a = []
  · subst hnil
    exact (hone hb h).symm
  · by_cases hnil' : b = []
    · subst hnil'
      exact absurd (hone ha h.symm) hnil
    · rw [lines_of_unbroken hnil ha.unbroken, lines_of_unbroken hnil' hb.unbroken] at h
      exact map_toList_injective h

/-- The calls of the stacks that have the same lines as the given one. -/
def alikeCalls (calls : List (List String)) (stack : List String) : Nat :=
  calls.countP fun other => lines other = lines stack

theorem countP_signature (calls : List (List String)) (stack : List String) :
    calls.countP (fun other => signature other == signature stack) = alikeCalls calls stack := by
  apply List.countP_congr
  intro other _
  simp [signature_eq_iff]

/-- A stack has been counted by itself just when the others have other lines. -/
theorem alikeCalls_eq_count_iff {calls : List (List String)} {stack : List String} :
    alikeCalls calls stack = calls.count stack ↔
      ∀ other ∈ calls, lines other = lines stack → other = stack := by
  have hsub : (calls.filter (· == stack)).Sublist
      (calls.filter fun other => lines other = lines stack) :=
    List.monotone_filter_right _ fun other h => by simp [beq_iff_eq.1 h]
  rw [alikeCalls, List.count, List.countP_eq_length_filter, List.countP_eq_length_filter]
  constructor
  · intro h other hother hlines
    have hmem : other ∈ calls.filter fun other => lines other = lines stack :=
      List.mem_filter.2 ⟨hother, decide_eq_true hlines⟩
    rw [← hsub.eq_of_length h.symm] at hmem
    exact beq_iff_eq.1 (List.mem_filter.1 hmem).2
  · intro h
    congr 1
    apply List.filter_congr
    intro other hother
    rw [Bool.eq_iff_iff, decide_eq_true_iff, beq_iff_eq]
    exact ⟨h other hother, fun heq => heq ▸ rfl⟩

end CallStack

theorem RequestContext.signature_eq (c : RequestContext) :
    c.signature = CallStack.signature c.cleanedStack := by
  rw [RequestContext.signature, Frames.signature, Frames.labels_eq]
  rfl

open CallStack (alikeCalls)

namespace Process

variable {p : Process} {k : Nat}

def callStack? (p : Process) (k : Nat) (op : Operation) : Option (List String) :=
  op.accounted?.bind fun (x, i, _) =>
    if p.eligible k x then (p.contextOn k i).map (·.cleanedStack) else none

def callStacks (p : Process) (k : Nat) : List Operation → List (List String)
  | [] => []
  | op :: ops => (p.callStack? k op).toList ++ (p.perform op).1.callStacks k ops

theorem countP_entry (p : Process) (k : Nat) (op : Operation) (signature : String) :
    (p.entry k op).toList.countP (fun e => e.isEligible && e.isFrom signature) =
      (p.callStack? k op).toList.countP (CallStack.signature · == signature) := by
  cases ho : op.accounted? with
  | none =>
    rw [callStack?, ho, Option.bind_none]
    obtain hentry | hentry := p.entry_of_not_accounted (k := k) ho <;> rw [hentry] <;> rfl
  | some a =>
    obtain ⟨x, i, site⟩ := a
    simp only [entry_of_accounted ho, attempt, callStack?, ho, Option.bind_some]
    cases p.contextOn k i with
    | none => simp
    | some ctx =>
      have hfrom : (Entry.attempt site ctx.signature true).isFrom signature =
          (CallStack.signature ctx.cleanedStack == signature) := by
        rw [Entry.isFrom, ctx.signature_eq, BEq.comm]
      cases p.eligible k x <;> simp [Entry.isEligible, hfrom]

theorem countP_callStacks (p : Process) (k : Nat) (ops : List Operation) (signature : String) :
    (p.history k ops).countP (fun e => e.isEligible && e.isFrom signature) =
      (p.callStacks k ops).countP (CallStack.signature · == signature) := by
  induction ops generalizing p with
  | nil => rfl
  | cons op ops ih =>
    rw [history, callStacks, List.countP_append, List.countP_append, countP_entry, ih]

/-- What the histogram of a store says of the stacks that calls came from. -/
structure CountsLines (p : Process) (k : Nat) (calls : List (List String)) : Prop where
  /-- Each entry counts the calls of all stacks that have the same lines. -/
  count : ∀ stack,
    (p.storeAt k).stackCount (CallStack.signature stack) = alikeCalls calls stack
  entries : ∀ signature, 0 < (p.storeAt k).stackCount signature →
    ∃ stack ∈ calls, CallStack.signature stack = signature
  ascending : (p.storeAt k).worstStacks.2.Pairwise (· < ·)
  worst : ∀ stack ∈ calls, CallStack.signature stack ∈ (p.storeAt k).worstStacks.2 ↔
    ∀ other ∈ calls, alikeCalls calls other ≤ alikeCalls calls stack
  worst_count : ∀ stack, CallStack.signature stack ∈ (p.storeAt k).worstStacks.2 →
    alikeCalls calls stack = (p.storeAt k).worstStacks.1
  /-- Each stack that has called is counted by itself just when their lines tell them apart. -/
  apart : (∀ stack ∈ calls,
      (p.storeAt k).stackCount (CallStack.signature stack) = calls.count stack) ↔
    ∀ stack ∈ calls, ∀ other ∈ calls,
      CallStack.lines other = CallStack.lines stack → other = stack

theorem countsLines_of_count {calls : List (List String)}
    (h : ∀ signature, (p.storeAt k).stackCount signature =
      calls.countP (CallStack.signature · == signature)) : p.CountsLines k calls := by
  have hcount (stack : List String) :
      (p.storeAt k).stackCount (CallStack.signature stack) = alikeCalls calls stack := by
    rw [h, CallStack.countP_signature]
  have hentries (g : String) (hpos : 0 < (p.storeAt k).stackCount g) :
      ∃ stack ∈ calls, CallStack.signature stack = g := by
    rw [h] at hpos
    obtain ⟨stack, hmem, hg⟩ := List.countP_pos_iff.1 hpos
    exact ⟨stack, hmem, beq_iff_eq.1 hg⟩
  have hfst : (p.storeAt k).worstStacks.1 = Tally.highest (p.storeAt k).stackTally :=
    Tally.fst_worst _
  have hle (g : String) : (p.storeAt k).stackCount g ≤ Tally.highest (p.storeAt k).stackTally :=
    Tally.count_le_highest _ g
  have hmem (g : String) : g ∈ (p.storeAt k).worstStacks.2 ↔
      0 < Tally.highest (p.storeAt k).stackTally ∧
        (p.storeAt k).stackCount g = Tally.highest (p.storeAt k).stackTally := Tally.mem_worst
  refine ⟨hcount, hentries, Tally.ascending_worst _, fun stack hstack => ?_, fun stack hworst => ?_,
    ?_⟩
  · rw [hmem, hcount]
    constructor
    · intro hworst other _
      rw [hworst.2, ← hcount]
      exact hle _
    · intro hmost
      have hone : 0 < alikeCalls calls stack :=
        List.countP_pos_iff.2 ⟨stack, hstack, decide_eq_true rfl⟩
      have hpos : 0 < Tally.highest (p.storeAt k).stackTally :=
        Nat.lt_of_lt_of_le hone (hcount stack ▸ hle _)
      -- The highest count is that of some stack, which has called no more than this one.
      obtain ⟨g, hg⟩ := List.exists_mem_of_ne_nil _ (Tally.worst_ne_nil_of_highest hpos)
      have hhighest := (Tally.mem_worst.1 hg).2
      have hseen : 0 < (p.storeAt k).stackCount g := by
        rw [RequestStore.stackCount, hhighest]
        exact hpos
      obtain ⟨other, hother, rfl⟩ := hentries g hseen
      have hmax : alikeCalls calls other = Tally.highest (p.storeAt k).stackTally :=
        (hcount other).symm.trans hhighest
      exact ⟨hpos, Nat.le_antisymm (hcount stack ▸ hle _) (hmax ▸ hmost other hother)⟩
  · rw [hfst, ← hcount]
    exact ((hmem _).1 hworst).2
  · simp only [hcount, CallStack.alikeCalls_eq_count_iff]

/-- Two contexts have the same signature just when their stacks have the same lines, and the
histogram of a request, after any run, counts the eligible calls by the lines of their calls. -/
theorem stacks_told_by_lines (now : Instant) (ops : List Operation) (k : Nat) :
    (∀ c d : RequestContext,
      (c.signature = d.signature ↔
        CallStack.lines c.cleanedStack = CallStack.lines d.cleanedStack) ∧
      (CallStack.IsPlain c.cleanedStack → CallStack.IsPlain d.cleanedStack →
        c.signature = d.signature → c.cleanedStack = d.cleanedStack)) ∧
    ((start now).run ops).CountsLines k ((start now).callStacks k ops) := by
  constructor
  · intro c d
    have htold : c.signature = d.signature ↔
        CallStack.lines c.cleanedStack = CallStack.lines d.cleanedStack := by
      rw [c.signature_eq, d.signature_eq, CallStack.signature_eq_iff]
    exact ⟨htold, fun hc hd h => hc.eq_of_lines hd (htold.1 h)⟩
  · apply countsLines_of_count
    intro signature
    rw [(records_from_start now ops k).signatures, countP_callStacks]

/-- A label of two lines and two labels of one line each are one stack to the histogram. -/
theorem stacks_merged_at_line_break :
    let x : Client := ⟨⟨default, []⟩, default, .fixed true, fun _ => ""⟩
    let ops : List Operation := [.startRequest (.web none) true .nobody none, .fork 0,
      .enterFrame 0 "Controller#index\nTask#loop", .enterFrame 1 "Controller#index",
      .enterFrame 1 "Task#loop", .enforce x 0 "find_commit", .enforce x 1 "find_commit"]
    let p := (start .epoch).run ops
    (∃ c d, p.contextOn 0 0 = some c ∧ p.contextOn 0 1 = some d ∧
      c.cleanedStack ≠ d.cleanedStack ∧ c.signature = d.signature) ∧
    (start .epoch).callStacks 0 ops =
      [["Controller#index\nTask#loop"], ["Controller#index", "Task#loop"]] ∧
    (p.storeAt 0).worstStacks = (2, ["Controller#index\nTask#loop"]) := by
  intro x ops p
  have hstacks : (p.contextOn 0 0).map (·.cleanedStack) = some ["Controller#index\nTask#loop"] ∧
      (p.contextOn 0 1).map (·.cleanedStack) = some ["Controller#index", "Task#loop"] := by
    decide +kernel
  obtain ⟨⟨c, hc, hc'⟩, ⟨d, hd, hd'⟩⟩ :=
    hstacks.imp Option.map_eq_some_iff.1 Option.map_eq_some_iff.1
  refine ⟨⟨c, d, hc, hd, by rw [hc', hd']; decide, ?_⟩, by decide +kernel, by decide +kernel⟩
  rw [c.signature_eq, d.signature_eq, hc', hd']
  decide

end Process

end StorageCalls
