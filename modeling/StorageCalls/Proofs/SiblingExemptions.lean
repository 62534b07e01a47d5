import StorageCalls.Proofs.BudgetHistory

namespace StorageCalls

open Scenario (Answer)

/-- What two branches of a request do in turn. Both make calls, and the first one also enters and
leaves exemptions. -/
inductive SiblingTurn where
  | enter
  | leave
  | first (site : String)
  | second (site : String)
  deriving DecidableEq

/-- A call of the second branch, and whether the first one is in an exemption at that time. -/
structure SiblingCall where
  site : String
  overlaps : Bool
  deriving DecidableEq

namespace SiblingTurn

def site? : SiblingTurn → Option String
  | enter | leave => none
  | first site | second site => some site

def depthAfter (n : Nat) : SiblingTurn → Nat
  | enter => n + 1
  | leave => n - 1
  | first _ | second _ => n

def call? (n : Nat) : SiblingTurn → Option SiblingCall
  | enter | leave | first _ => none
  | second site => some ⟨site, n ≠ 0⟩

def calls : Nat → List SiblingTurn → List SiblingCall
  | _, [] => []
  | n, t :: turns => (t.call? n).toList ++ calls (t.depthAfter n) turns

def withoutExemptions (turns : List SiblingTurn) : List SiblingTurn :=
  turns.filter fun t => t.site?.isSome

/-- What a turn does to the store of the request, as far as the budget goes. -/
def account (signature : String) (s : RequestStore) : SiblingTurn → RequestStore
  | enter => s.beginExemption
  | leave => s.endExemption
  | first site | second site => Budget.charge true signature site s

variable (t : SiblingTurn) (signature : String) (s : RequestStore)

theorem exemptions_account : (t.account signature s).exemptions = t.depthAfter s.exemptions := by
  cases t <;> rfl

theorem enforcedCount_account (site : String) :
    (t.account signature s).enforcedCount site =
      s.enforcedCount site + if s.exemptions = 0 ∧ t.site? = some site then 1 else 0 := by
  have hcharge (called : String) := Budget.enforcedCount_charge true signature called s site
  simp only [Budget.counts, Bool.true_and, beq_iff_eq] at hcharge
  cases t with
  | enter => simp [site?, account, RequestStore.beginExemption, RequestStore.enforcedCount]
  | leave => simp [site?, account, RequestStore.endExemption, RequestStore.enforcedCount]
  | first called => simp only [account, hcharge, site?, Option.some.injEq, eq_comm (a := called)]
  | second called => simp only [account, hcharge, site?, Option.some.injEq, eq_comm (a := called)]

theorem actualCount_account (site : String) :
    (t.account signature s).actualCount site =
      s.actualCount site + if t.site? = some site then 1 else 0 := by
  have hcharge (called : String) := Budget.actualCount_charge true signature called s site
  cases t with
  | enter => simp [site?, account, RequestStore.beginExemption, RequestStore.actualCount]
  | leave => simp [site?, account, RequestStore.endExemption, RequestStore.actualCount]
  | first called => simp only [account, hcharge, site?, Option.some.injEq, eq_comm (a := called)]
  | second called => simp only [account, hcharge, site?, Option.some.injEq, eq_comm (a := called)]

variable {t} {site : String}

theorem count_call? (h : t ≠ .first site) (n : Nat) :
    (t.call? n).toList.count ⟨site, false⟩ = if n = 0 ∧ t.site? = some site then 1 else 0 := by
  cases t with
  | enter => simp [call?, site?]
  | leave => simp [call?, site?]
  | first called =>
    have hne : called ≠ site := fun heq => h (heq ▸ rfl)
    simp [call?, site?, hne]
  | second called => simp [call?, site?, List.count_singleton, and_comm]

theorem countP_call? (h : t ≠ .first site) (n : Nat) :
    (t.call? n).toList.countP (·.site = site) = if t.site? = some site then 1 else 0 := by
  cases t with
  | enter => simp [call?, site?]
  | leave => simp [call?, site?]
  | first called => simpa [call?, site?] using h
  | second called => simp [call?, site?]

theorem second_mem_of_mem_calls {n : Nat} {turns : List SiblingTurn} {c : SiblingCall}
    (h : c ∈ calls n turns) : .second c.site ∈ turns := by
  induction turns generalizing n with
  | nil => cases h
  | cons t turns ih =>
    obtain hnow | hlater := List.mem_append.1 h
    · cases t with
      | second site =>
        rw [call?, Option.toList_some, List.mem_singleton] at hnow
        rw [hnow]
        exact .head _
      | _ => cases hnow
    · exact .tail _ (ih hlater)

theorem count_map_clear (site : String) (cs : List SiblingCall) :
    (cs.map fun c => { c with overlaps := false }).count ⟨site, false⟩ =
      cs.count ⟨site, false⟩ + cs.count ⟨site, true⟩ := by
  induction cs with
  | nil => rfl
  | cons c cs ih =>
    obtain ⟨called, overlaps⟩ := c
    rw [List.map_cons, List.count_cons, List.count_cons, List.count_cons, ih]
    cases overlaps <;> by_cases h : called = site <;> simp [h] <;> omega

theorem calls_withoutExemptions (n : Nat) (turns : List SiblingTurn) :
    calls 0 (withoutExemptions turns) =
      (calls n turns).map fun c => { c with overlaps := false } := by
  induction turns generalizing n with
  | nil => rfl
  | cons t turns ih =>
    cases t with
    | enter => exact ih (n + 1)
    | leave => exact ih (n - 1)
    | first site => exact ih n
    | second site => exact congrArg (_ :: ·) (ih n)

end SiblingTurn

open SiblingTurn

/-- Of a refusal, the site and the number of its calls. The stacks that it also tells are those of
the whole request. -/
def Scenario.Answer.refusal? : Answer → Option (String × Nat)
  | .failed (.tooManyInvocations overrun) => some (overrun.callSite, overrun.invocationCount)
  | _ => none

/-- Two branches of a request by the numbers of their contexts, with the client that accounts for
their calls and the store of the request. -/
structure Siblings where
  client : Client
  store : Nat
  first : Nat
  second : Nat

namespace Siblings

variable (b : Siblings) (p : Process)

def operation : SiblingTurn → Operation
  | .enter => .enterScope b.first .exemption
  | .leave => .drop (p.guards.idxOf (.exemption b.store))
  | .first site => .enforce b.client b.first site
  | .second site => .enforce b.client b.second site

def take (t : SiblingTurn) : Process := (p.perform (b.operation p t)).1

def run (turns : List SiblingTurn) : Process := turns.foldl b.take p

def answer? : SiblingTurn → Option Answer
  | .enter | .leave | .first _ => none
  | .second site => some (p.perform (.enforce b.client b.second site)).2

def answers (p : Process) : List SiblingTurn → List Answer
  | [] => []
  | t :: turns => (b.answer? p t).toList ++ answers (b.take p t) turns

def enforcedCount (site : String) : Nat := (p.storeAt b.store).enforcedCount site

def actualCount (site : String) : Nat := (p.storeAt b.store).actualCount site

def exemptions : Nat := (p.storeAt b.store).exemptions

/-- Both are branches of the request, and limits are enforced. -/
structure Fits : Prop where
  sound : p.Sound
  enforcing : b.client.isEnforcing
  first : (p.contextOn b.store b.first).isSome
  second : (p.contextOn b.store b.second).isSome

/-- The calls that count are those that overlap with no exemption. -/
structure Accounted (turns : List SiblingTurn) : Prop where
  counts : ∀ site, .first site ∉ turns →
    b.enforcedCount (b.run p turns) site =
      b.enforcedCount p site + (calls 0 turns).count ⟨site, false⟩
  length : (b.answers p turns).length = (calls 0 turns).length
  /-- A call is refused when it overlaps with no exemption, after as many calls of its site as there
  may be that did not overlap with one either. -/
  refusals : ∀ i c answer, (calls 0 turns)[i]? = some c → (b.answers p turns)[i]? = some answer →
    let before := (calls 0 turns).take i
    answer.refusal? =
      if c.overlaps = false ∧
          Budget.ceiling ≤ b.enforcedCount p c.site + before.count ⟨c.site, false⟩ then
        some (c.site, b.actualCount p c.site + before.countP (·.site = c.site) + 1)
      else none

/-- What is said of the second branch, next to the same turns with no exemption. -/
structure ExemptByOverlap (turns : List SiblingTurn) : Prop where
  exempted : b.Accounted p turns
  unexempted : b.Accounted p (withoutExemptions turns)
  counts : (∀ site, .first site ∉ turns →
      b.enforcedCount (b.run p turns) site =
        b.enforcedCount (b.run p (withoutExemptions turns)) site) ↔
    ∀ c ∈ calls 0 turns, c.overlaps = false
  answers : (∀ c ∈ calls 0 turns, c.overlaps = false) →
    (b.answers p turns).map (·.refusal?) =
      (b.answers p (withoutExemptions turns)).map (·.refusal?)

variable {b p}

theorem Fits.effect (h : b.Fits p) (t : SiblingTurn) :
    ∃ signature, p.effect b.store (p.storeAt b.store) (b.operation p t) =
      t.account signature (p.storeAt b.store) := by
  cases t with
  | enter => exact ⟨"", by simp only [operation, Process.effect, h.first, if_true, account]⟩
  | leave =>
    refine ⟨"", ?_⟩
    simp only [operation, Process.effect, account]
    by_cases hmem : Guard.exemption b.store ∈ p.guards
    · rw [if_pos (List.getElem?_idxOf hmem)]
    · -- without an exemption to leave there is nothing to count down
      have hzero : (p.storeAt b.store).exemptions = 0 := by
        rw [h.sound.exemptions, List.count_eq_zero]
        exact hmem
      have hend : (p.storeAt b.store).endExemption = p.storeAt b.store := by
        generalize p.storeAt b.store = s at hzero
        cases s
        simp_all [RequestStore.endExemption]
      rw [if_neg fun hg => hmem (List.mem_of_getElem? hg), hend]
  | first site =>
    obtain ⟨ctx, hctx⟩ := Option.isSome_iff_exists.1 h.first
    exact ⟨ctx.signature, by
      simp only [operation, Process.effect, Process.chargedBy, hctx, h.enforcing, account]⟩
  | second site =>
    obtain ⟨ctx, hctx⟩ := Option.isSome_iff_exists.1 h.second
    exact ⟨ctx.signature, by
      simp only [operation, Process.effect, Process.chargedBy, hctx, h.enforcing, account]⟩

theorem Fits.budgetPart_take (h : b.Fits p) (t : SiblingTurn) :
    ∃ signature, ((b.take p t).storeAt b.store).budgetPart =
      (t.account signature (p.storeAt b.store)).budgetPart := by
  obtain ⟨signature, heffect⟩ := h.effect t
  exact ⟨signature, heffect ▸ Process.budgetPart_perform h.sound (b.operation p t) b.store⟩

theorem Fits.exemptions_take (h : b.Fits p) (t : SiblingTurn) :
    b.exemptions (b.take p t) = t.depthAfter (b.exemptions p) := by
  obtain ⟨signature, hpart⟩ := h.budgetPart_take t
  exact (congrArg (·.exemptions) hpart).trans (t.exemptions_account signature _)

theorem Fits.enforcedCount_take (h : b.Fits p) (t : SiblingTurn) (site : String) :
    b.enforcedCount (b.take p t) site =
      b.enforcedCount p site + if b.exemptions p = 0 ∧ t.site? = some site then 1 else 0 := by
  obtain ⟨signature, hpart⟩ := h.budgetPart_take t
  exact (congrArg (·.enforcedCount site) hpart).trans (t.enforcedCount_account signature _ site)

theorem Fits.actualCount_take (h : b.Fits p) (t : SiblingTurn) (site : String) :
    b.actualCount (b.take p t) site =
      b.actualCount p site + if t.site? = some site then 1 else 0 := by
  obtain ⟨signature, hpart⟩ := h.budgetPart_take t
  exact (congrArg (·.actualCount site) hpart).trans (t.actualCount_account signature _ site)

theorem contexts_take (t : SiblingTurn) : (b.take p t).world.contexts = p.world.contexts := by
  cases t with
  | enter =>
    simp only [take, operation, Process.perform, Process.withContext]
    cases p.world.contexts[b.first]? with
    | none => rfl
    | some ctx =>
      simp only [Process.keep, World.enterScope]
      split <;> rfl
  | leave =>
    simp only [take, operation, Process.perform]
    cases hg : p.guards[p.guards.idxOf (.exemption b.store)]? with
    | none => rfl
    | some g =>
      obtain ⟨hlt, hget⟩ := List.getElem?_eq_some_iff.1 hg
      rw [List.getElem_idxOf] at hget
      subst hget
      rfl
  | first site =>
    have hlocal : (Operation.enforce b.client b.first site).isLocal := rfl
    exact (Process.same_perform hlocal).1
  | second site =>
    have hlocal : (Operation.enforce b.client b.second site).isLocal := rfl
    exact (Process.same_perform hlocal).1

theorem Fits.take (h : b.Fits p) (t : SiblingTurn) : b.Fits (b.take p t) where
  sound := h.sound.perform _
  enforcing := h.enforcing
  first := by
    rw [Process.contextOn, contexts_take]
    exact h.first
  second := by
    rw [Process.contextOn, contexts_take]
    exact h.second

theorem Fits.enforcedCount_run (h : b.Fits p) {turns : List SiblingTurn} {site : String}
    (hsite : .first site ∉ turns) :
    b.enforcedCount (b.run p turns) site =
      b.enforcedCount p site + (calls (b.exemptions p) turns).count ⟨site, false⟩ := by
  induction turns generalizing p with
  | nil => rfl
  | cons t turns ih =>
    rw [List.mem_cons, not_or] at hsite
    have hrun : b.run p (t :: turns) = b.run (b.take p t) turns := rfl
    rw [hrun, ih (h.take t) hsite.2, h.exemptions_take, h.enforcedCount_take, calls,
      List.count_append, count_call? (Ne.symm hsite.1), Nat.add_assoc]

theorem length_answers (p : Process) (n : Nat) (turns : List SiblingTurn) :
    (b.answers p turns).length = (calls n turns).length := by
  induction turns generalizing p n with
  | nil => rfl
  | cons t turns ih =>
    rw [answers, calls, List.length_append, List.length_append, ih _ (t.depthAfter n)]
    cases t <;> rfl

theorem Fits.refusal?_answer (h : b.Fits p) (site : String) :
    (p.perform (.enforce b.client b.second site)).2.refusal? =
      if b.exemptions p = 0 ∧ Budget.ceiling ≤ b.enforcedCount p site then
        some (site, b.actualCount p site + 1)
      else none := by
  obtain ⟨ctx, hctx⟩ := Option.isSome_iff_exists.1 h.second
  have hcounts : Budget.counts b.client.isEnforcing (p.storeAt b.store) = true ↔
      b.exemptions p = 0 := by
    rw [Budget.counts, h.enforcing, Bool.true_and, beq_iff_eq, exemptions]
  have hsame : (p.storeAt b.store).enforcedCount site = b.enforcedCount p site := rfl
  rw [Process.answer_enforce h.sound hctx, Budget.refusal]
  simp only [hcounts, hsame]
  by_cases hr : b.exemptions p = 0 ∧ Budget.ceiling ≤ b.enforcedCount p site
  · have hcount := Budget.actualCount_charge b.client.isEnforcing ctx.signature site
      (p.storeAt b.store) site
    rw [if_pos rfl] at hcount
    rw [if_pos hr, if_pos hr]
    simp only [verdict, Answer.ofResult, Answer.refusal?, Budget.overrunOf, hcount, actualCount]
  · rw [if_neg hr, if_neg hr]
    rfl

theorem Fits.refusals (h : b.Fits p) {turns : List SiblingTurn}
    (hsites : ∀ site, .second site ∈ turns → .first site ∉ turns) (i : Nat) {c : SiblingCall}
    {answer : Answer} (hc : (calls (b.exemptions p) turns)[i]? = some c)
    (ha : (b.answers p turns)[i]? = some answer) :
    let before := (calls (b.exemptions p) turns).take i
    answer.refusal? =
      if c.overlaps = false ∧
          Budget.ceiling ≤ b.enforcedCount p c.site + before.count ⟨c.site, false⟩ then
        some (c.site, b.actualCount p c.site + before.countP (·.site = c.site) + 1)
      else none := by
  intro before
  induction turns generalizing p i with
  | nil => cases hc
  | cons t turns ih =>
    have hlater : ∀ site, .second site ∈ turns → .first site ∉ turns := fun site hmem hfirst =>
      hsites site (.tail _ hmem) (.tail _ hfirst)
    have hne : t ≠ .first c.site := fun heq =>
      hsites c.site (second_mem_of_mem_calls (List.mem_of_getElem? hc)) (heq ▸ .head _)
    -- what this turn adds to the counts is what it adds to the calls before the later ones
    have hstep (j : Nat) (hj : (calls (b.exemptions (b.take p t)) turns)[j]? = some c)
        (haj : (b.answers (b.take p t) turns)[j]? = some answer)
        (hbefore : before = (t.call? (b.exemptions p)).toList ++
          (calls (b.exemptions (b.take p t)) turns).take j) : answer.refusal? =
        if c.overlaps = false ∧
            Budget.ceiling ≤ b.enforcedCount p c.site + before.count ⟨c.site, false⟩ then
          some (c.site, b.actualCount p c.site + before.countP (·.site = c.site) + 1)
        else none := by
      rw [ih (h.take t) hlater j hj haj, h.enforcedCount_take, h.actualCount_take, hbefore,
        List.count_append, List.countP_append, count_call? hne, countP_call? hne, Nat.add_assoc,
        Nat.add_assoc (b.actualCount p c.site)]
    rw [h.exemptions_take] at hstep
    cases t with
    | second site =>
      cases i with
      | zero =>
        cases hc
        cases ha
        simp only [h.refusal?_answer, before, List.take_zero, List.count_nil, List.countP_nil,
          Nat.add_zero, decide_eq_false_iff_not, not_not]
      | succ j => exact hstep j hc ha rfl
    | enter => exact hstep i hc ha rfl
    | leave => exact hstep i hc ha rfl
    | first site => exact hstep i hc ha rfl

theorem Fits.accounted (h : b.Fits p) (hzero : b.exemptions p = 0) {turns : List SiblingTurn}
    (hsites : ∀ site, .second site ∈ turns → .first site ∉ turns) : b.Accounted p turns where
  counts site hsite := hzero ▸ h.enforcedCount_run hsite
  length := b.length_answers p 0 turns
  refusals i c answer hc ha := by
    have hrefusal := h.refusals hsites i (hzero.symm ▸ hc) ha
    rwa [hzero] at hrefusal

theorem Accounted.answers_congr {turns turns' : List SiblingTurn} (h : b.Accounted p turns)
    (h' : b.Accounted p turns') (hcalls : calls 0 turns = calls 0 turns') :
    (b.answers p turns).map (·.refusal?) = (b.answers p turns').map (·.refusal?) := by
  apply List.ext_getElem
  · rw [List.length_map, List.length_map, h.length, h'.length, hcalls]
  · intro i hi hi'
    rw [List.length_map] at hi hi'
    obtain ⟨c, hcall⟩ : ∃ c, (calls 0 turns)[i]? = some c :=
      ⟨_, List.getElem?_eq_getElem (h.length ▸ hi)⟩
    rw [List.getElem_map, List.getElem_map,
      h.refusals i _ _ hcall (List.getElem?_eq_getElem hi),
      h'.refusals i _ _ (hcalls ▸ hcall) (List.getElem?_eq_getElem hi'), hcalls]

/-- A branch is accounted for as if its sibling had no exemptions just when none of its calls falls
into one. -/
theorem unaffected_iff_no_overlap (b : Siblings) (now : Instant) (ops : List Operation)
    (turns : List SiblingTurn) (hx : b.client.isEnforcing)
    (hfirst : (((Process.start now).run ops).contextOn b.store b.first).isSome)
    (hsecond : (((Process.start now).run ops).contextOn b.store b.second).isSome)
    (hexempt : ((Process.start now).run ops).exempts b.store = false)
    (hsites : ∀ site, .second site ∈ turns → .first site ∉ turns) :
    b.ExemptByOverlap ((Process.start now).run ops) turns := by
  have hsound := (Process.sound_start now).run ops
  have hfits : b.Fits ((Process.start now).run ops) := ⟨hsound, hx, hfirst, hsecond⟩
  have hzero : b.exemptions ((Process.start now).run ops) = 0 := by
    rw [exemptions, hsound.exemptions, List.count_eq_zero]
    simpa [Process.exempts] using hexempt
  have hsites' : ∀ site, .second site ∈ withoutExemptions turns →
      .first site ∉ withoutExemptions turns := fun site hmem hmem' =>
    hsites site (List.mem_of_mem_filter hmem) (List.mem_of_mem_filter hmem')
  have hwith := hfits.accounted hzero hsites
  have hwithout := hfits.accounted hzero hsites'
  have hcalls := calls_withoutExemptions 0 turns
  refine ⟨hwith, hwithout, ?_, fun hnone => hwith.answers_congr hwithout ?_⟩
  · have hcounts (site : String) (hsite : .first site ∉ turns) :
        b.enforcedCount (b.run ((Process.start now).run ops) turns) site =
            b.enforcedCount (b.run ((Process.start now).run ops) (withoutExemptions turns)) site ↔
          ⟨site, true⟩ ∉ calls 0 turns := by
      rw [hwith.counts site hsite,
        hwithout.counts site fun hmem => hsite (List.mem_of_mem_filter hmem), hcalls,
        count_map_clear, ← List.count_eq_zero]
      omega
    constructor
    · intro hsame c hc
      have hsite := hsites c.site (second_mem_of_mem_calls hc)
      have hnot := (hcounts c.site hsite).1 (hsame c.site hsite)
      exact Bool.eq_false_iff.2 fun hoverlaps => hnot (hoverlaps ▸ hc)
    · exact fun hnone site hsite =>
        (hcounts site hsite).2 fun hmem => absurd (hnone _ hmem) (by simp)
  · rw [hcalls]
    conv_lhs => rw [← List.map_id (calls 0 turns)]
    exact List.map_congr_left fun c hc => by rw [← hnone c hc]; rfl

def ofFork : Siblings := ⟨⟨⟨default, []⟩, default, .fixed true, fun _ => ""⟩, 0, 1, 2⟩

def forkOps : List Operation := [.startRequest .background true .nobody none, .fork 0, .fork 0]

/-- One call falls into an exemption of the other branch and one does not. -/
theorem unaffected_iff_no_overlap_of_two :
    let p := (Process.start .epoch).run forkOps
    let turns : List SiblingTurn :=
      [.enter, .first "list", .second "find", .leave, .second "find"]
    (ofFork.client.isEnforcing ∧ (p.contextOn 0 1).isSome ∧ (p.contextOn 0 2).isSome ∧
      p.exempts 0 = false ∧ ∀ site, .second site ∈ turns → .first site ∉ turns) ∧
    ofFork.ExemptByOverlap p turns ∧
    calls 0 turns = [⟨"find", true⟩, ⟨"find", false⟩] ∧
    ofFork.enforcedCount (ofFork.run p turns) "find" = 1 := by
  intro p turns
  have hsites : ∀ site, .second site ∈ turns → .first site ∉ turns := by
    intro site hmem
    obtain rfl : site = "find" := by simpa [turns] using hmem
    decide
  exact ⟨⟨rfl, rfl, rfl, rfl, hsites⟩,
    unaffected_iff_no_overlap ofFork .epoch forkOps turns rfl rfl rfl rfl hsites, by decide,
    by decide⟩

/-- A branch calls one site again and again. None of it is counted as long as its sibling is in an
exemption, and the call that is too many is not refused. -/
theorem uncounted_in_exemption_of_sibling :
    let p := (Process.start .epoch).run forkOps
    let loop : List SiblingTurn := List.replicate 31 (.second "find")
    let turns : List SiblingTurn := .enter :: loop ++ [.leave]
    (ofFork.client.isEnforcing ∧ p.exempts 0 = false ∧ withoutExemptions turns = loop) ∧
    ofFork.enforcedCount (ofFork.run p turns) "find" = 0 ∧
    ofFork.enforcedCount (ofFork.run p loop) "find" = 31 ∧
    ((ofFork.answers p turns).getLast?.map (·.refusal?)) = some none ∧
    ((ofFork.answers p loop).getLast?.map (·.refusal?)) = some (some ("find", 31)) := by
  decide +kernel

end Siblings

end StorageCalls
