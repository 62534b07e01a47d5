import Mathlib.Algebra.GroupWithZero.Nat
import StorageCalls.Proofs.Deadlines
import StorageCalls.Proofs.Process

namespace StorageCalls

open Scenario (Answer)

def SecondsFit (ticks : Int) : Prop :=
  -0x8000000000000000 ≤ ticks / 1000000000 ∧ ticks / 1000000000 < 0x8000000000000000

instance (ticks : Int) : Decidable (SecondsFit ticks) := inferInstanceAs (Decidable (_ ∧ _))

theorem secondsFit_iff {ticks : Int} :
    SecondsFit ticks ↔ -(0x8000000000000000 * ticksPerSecond : Int) ≤ ticks ∧
      ticks < 0x8000000000000000 * ticksPerSecond :=
  Instant.seconds_fit_iff ticks

/-- What is told of a clock: where it was set, or where it began, and what it was advanced by since,
without the advances that failed. -/
structure ClockLog where
  base : Instant
  spans : List Duration

namespace ClockLog

/-- What a clock shows that is never rounded and has no end. -/
def exact (l : ClockLog) : Int := l.base.ticks + (l.spans.map (·.ticks)).sum

def Admits (l : ClockLog) : ClockStep → Prop
  | .advance d => SecondsFit (l.exact + d.ticks)
  | .set _ => True

instance (l : ClockLog) : DecidablePred l.Admits
  | .advance d => inferInstanceAs (Decidable (SecondsFit (l.exact + d.ticks)))
  | .set _ => .isTrue trivial

def taken (l : ClockLog) : ClockStep → ClockLog
  | .advance d => ⟨l.base, l.spans ++ [d]⟩
  | .set t => ⟨t, []⟩

def after (l : ClockLog) (step : ClockStep) : ClockLog :=
  if l.Admits step then l.taken step else l

def readings? (l : ClockLog) : List ClockStep → Option (List Int)
  | [] => some []
  | step :: steps =>
    if l.Admits step then ((l.after step).readings? steps).map ((l.after step).exact :: ·) else none

end ClockLog

namespace Instant

variable {now t : Instant} {d : Duration}

theorem nanoseconds_lt (t : Instant) : t.nanoseconds < 1000000000 := by
  simp only [nanoseconds, ticksPerSecond]
  omega

theorem seconds_add_nanoseconds (t : Instant) :
    t.seconds * 1000000000 + t.nanoseconds = t.ticks := by
  simp only [seconds, nanoseconds, ticksPerSecond]
  omega

theorem secondsFit_ticks (t : Instant) : SecondsFit t.ticks := secondsFit_iff.2 ⟨t.lower, t.upper⟩

theorem IsEnd.parts (h : t.IsEnd now d) :
    t.seconds = now.seconds + d.seconds + (now.nanoseconds + d.nanoseconds) / 1000000000 ∧
      t.nanoseconds = (now.nanoseconds + d.nanoseconds) % 1000000000 := by
  simp only [IsEnd, seconds, nanoseconds, Duration.seconds, Duration.nanoseconds,
    ticksPerSecond] at h ⊢
  omega

theorem exists_add?_of_fit (h : SecondsFit (now.ticks + d.ticks)) :
    ∃ t : Instant, now.add? d = some t ∧ t.IsEnd now d := by
  obtain ⟨hlower, hupper⟩ := secondsFit_iff.1 h
  exact ⟨⟨_, hlower, hupper⟩, add?_eq_some_iff.2 rfl, rfl⟩

theorem add?_eq_none_iff : now.add? d = none ↔ ¬ SecondsFit (now.ticks + d.ticks) := by
  constructor
  · intro h hfit
    obtain ⟨t, ht, -⟩ := exists_add?_of_fit hfit
    rw [h] at ht
    cases ht
  · intro h
    rw [Option.eq_none_iff_forall_ne_some]
    intro t ht
    have hend : t.ticks = now.ticks + d.ticks := add?_eq_some_iff.1 ht
    exact h (hend ▸ t.secondsFit_ticks)

/-- Two spans one after the other are as good as their sum, also when that is no span any more. -/
theorem add?_bind_add? (now : Instant) (a b : Duration) :
    (now.add? a).bind (·.add? b) = (a.add? b).bind now.add? := by
  have hnow := now.lower
  apply Option.ext
  intro t
  have ht := t.upper
  simp only [Option.bind_eq_some_iff, add?_eq_some_iff, Duration.add?_eq_some_iff, IsEnd]
  simp only [ticksPerSecond] at hnow ht
  constructor
  · rintro ⟨u, hu, hend⟩
    have hsum : a.ticks + b.ticks < 0x10000000000000000 * ticksPerSecond := by
      simp only [ticksPerSecond]
      omega
    exact ⟨⟨_, hsum⟩, rfl, by simp only; omega⟩
  · rintro ⟨c, hc, hend⟩
    have hlower : -(0x8000000000000000 * ticksPerSecond : Int) ≤ now.ticks + a.ticks := by
      simp only [ticksPerSecond]
      omega
    have hupper : now.ticks + a.ticks < 0x8000000000000000 * ticksPerSecond := by
      simp only [ticksPerSecond]
      omega
    exact ⟨⟨_, hlower, hupper⟩, rfl, by simp only; omega⟩

theorem unixSeconds_mono (h : now ≤ t) : now.unixSeconds ≤ t.unixSeconds := by
  have hle : now.ticks ≤ t.ticks := h
  simp only [unixSeconds, seconds, ticksPerSecond]
  omega

end Instant

namespace ClockLog

variable {l : ClockLog} {now : Instant}

theorem exact_advance (l : ClockLog) (d : Duration) :
    (l.taken (.advance d)).exact = l.exact + d.ticks := by
  simp [taken, exact, Int.add_assoc]

theorem exact_set (l : ClockLog) (t : Instant) : (l.taken (.set t)).exact = t.ticks := by
  simp [taken, exact]

theorem next?_of_admits (h : now.ticks = l.exact) {step : ClockStep} (ha : l.Admits step) :
    ∃ t, step.next? now = some t ∧ t.ticks = (l.after step).exact := by
  rw [after, if_pos ha]
  cases step with
  | set t => exact ⟨t, rfl, (l.exact_set t).symm⟩
  | advance d =>
    have hfit : SecondsFit (now.ticks + d.ticks) := h ▸ ha
    obtain ⟨t, ht, hend⟩ := Instant.exists_add?_of_fit hfit
    refine ⟨t, ht, ?_⟩
    rw [exact_advance, ← h]
    exact hend

theorem next?_of_not_admits (h : now.ticks = l.exact) {step : ClockStep} (ha : ¬ l.Admits step) :
    step.next? now = none := by
  cases step with
  | set t => exact absurd trivial ha
  | advance d => exact Instant.add?_eq_none_iff.2 (h ▸ ha)

theorem exact_after (h : now.ticks = l.exact) (step : ClockStep) :
    ((step.next? now).getD now).ticks = (l.after step).exact := by
  by_cases ha : l.Admits step
  · obtain ⟨t, ht, hexact⟩ := next?_of_admits h ha
    rw [ht, Option.getD_some, hexact]
  · rw [next?_of_not_admits h ha, Option.getD_none, after, if_neg ha, h]

theorem readings?_eq (h : now.ticks = l.exact) (steps : List ClockStep) :
    (ClockStep.readings? now steps).map (·.map (·.ticks)) = l.readings? steps := by
  induction steps generalizing now l with
  | nil => rfl
  | cons step steps ih =>
    by_cases ha : l.Admits step
    · obtain ⟨t, ht, hexact⟩ := next?_of_admits h ha
      have hrest := ih hexact
      simp only [ClockStep.readings?, readings?, if_pos ha, ht, ← hrest, ← hexact,
        Option.bind_eq_bind, Option.bind_some]
      cases ClockStep.readings? t steps <;> rfl
    · simp only [ClockStep.readings?, readings?, if_neg ha, next?_of_not_admits h ha]
      rfl

end ClockLog

def Operation.clockStep? : Operation → Option ClockStep
  | .moveClock step => some step
  | _ => none

namespace Process

variable {α : Type} {p : Process} {l : ClockLog}

def showing (p : Process) (t : Instant) : Process := { p with world := { p.world with now := t } }

def clockLog (l : ClockLog) (ops : List Operation) : ClockLog :=
  (ops.filterMap (·.clockStep?)).foldl ClockLog.after l

theorem perform_moveClock (p : Process) (step : ClockStep) :
    p.perform (.moveClock step) =
      match step.next? p.world.now with
      | some t => (p.showing t, .done)
      | none => (p, .failed .timeOverflow) := by
  simp only [perform, onWorld, Stage.run, World.moveClock]
  cases step.next? p.world.now <;> rfl

theorem perform_advance_of_some {d : Duration} {t : Instant} (h : p.world.now.add? d = some t) :
    p.perform (.moveClock (.advance d)) = (p.showing t, .done) := by
  rw [perform_moveClock, ClockStep.next?, h]

theorem perform_advance_of_none {d : Duration} (h : p.world.now.add? d = none) :
    p.perform (.moveClock (.advance d)) = (p, .failed .timeOverflow) := by
  rw [perform_moveClock, ClockStep.next?, h]

theorem now_withContext (i : Nat) {f : RequestContext → Process × Answer}
    (h : ∀ ctx, (f ctx).1.world.now = p.world.now) :
    (p.withContext i f).1.world.now = p.world.now := by
  unfold withContext
  split
  · rfl
  · exact h _

/-- Only the steps of the clock move it. -/
theorem now_perform (p : Process) {op : Operation} (h : op.clockStep? = none) :
    (p.perform op).1.world.now = p.world.now := by
  cases op with
  | moveClock step => cases h
  | startRequest kind tracked caller correlationId => rfl
  | fork i => exact now_withContext i fun _ => rfl
  | enterFrame i label =>
    simp only [perform, World.enterFrame]
    split <;> rfl
  | enterScope i scope =>
    apply now_withContext
    intro ctx
    simp only [World.enterScope, keep]
    split
    · cases scope <;> rfl
    · rfl
  | drop n =>
    simp only [perform]
    split
    · rfl
    · next g _ => cases g <;> rfl
  | enforce x i site => exact now_withContext i fun _ => rfl
  | resetCounts i => exact now_withContext i fun _ => rfl
  | markQuarantined i => exact now_withContext i fun _ => rfl
  | keepDetails i => exact now_withContext i fun _ => rfl
  | sessionId x i => exact now_withContext i fun _ => rfl
  | call x files elapsed i c => exact now_withContext i fun _ => rfl
  | checkHealth x files elapsed i storage => exact now_withContext i fun _ => rfl
  | connectionFor r files service storage => rfl
  | clear => rfl
  | script responses health refusal => rfl

theorem ticks_perform (h : p.world.now.ticks = l.exact) (op : Operation) :
    (p.perform op).1.world.now.ticks = (clockLog l [op]).exact := by
  cases hstep : op.clockStep? with
  | none =>
    simp only [clockLog, List.filterMap_cons, hstep, now_perform p hstep, h]
    rfl
  | some step =>
    obtain rfl : op = .moveClock step := by cases op <;> cases hstep; rfl
    have hnow : (p.perform (.moveClock step)).1.world.now =
        (step.next? p.world.now).getD p.world.now := by
      rw [perform_moveClock]
      cases step.next? p.world.now <;> rfl
    rw [hnow]
    exact ClockLog.exact_after h step

theorem clockLog_cons (l : ClockLog) (op : Operation) (ops : List Operation) :
    clockLog l (op :: ops) = clockLog (clockLog l [op]) ops := by
  rw [clockLog, clockLog, clockLog, ← List.foldl_append, ← List.filterMap_append,
    List.singleton_append]

theorem ticks_run (h : p.world.now.ticks = l.exact) (ops : List Operation) :
    (p.run ops).world.now.ticks = (clockLog l ops).exact := by
  induction ops generalizing p l with
  | nil => exact h
  | cons op ops ih =>
    rw [run_cons, clockLog_cons]
    exact ih (ticks_perform h op)

/-- What is said of the clock of a process, going by what is told of it. -/
structure ClockFollows (p : Process) (l : ClockLog) : Prop where
  nanoseconds : p.world.now.nanoseconds < 1000000000
  reading : p.world.now.seconds * 1000000000 + p.world.now.nanoseconds = l.exact
  set : ∀ t, p.perform (.moveClock (.set t)) = (p.showing t, .done)
  advance : ∀ d, SecondsFit (l.exact + d.ticks) → ∃ t : Instant, t.ticks = l.exact + d.ticks ∧
    p.perform (.moveClock (.advance d)) = (p.showing t, .done)
  /-- What an advance that succeeds does to the seconds and to the nanoseconds. -/
  carry : ∀ d t, p.perform (.moveClock (.advance d)) = (p.showing t, .done) →
    t.seconds = p.world.now.seconds + d.seconds +
        (p.world.now.nanoseconds + d.nanoseconds) / 1000000000 ∧
      t.nanoseconds = (p.world.now.nanoseconds + d.nanoseconds) % 1000000000
  overflow : ∀ d, ¬ SecondsFit (l.exact + d.ticks) →
    p.perform (.moveClock (.advance d)) = (p, .failed .timeOverflow)
  /-- Of two advances one fails just when an advance by their sum does, or when there is no such
  span, and else they come to the same. -/
  twice : ∀ a b,
    let first := p.perform (.moveClock (.advance a))
    let second := first.1.perform (.moveClock (.advance b))
    ((first.2 = .failed .timeOverflow ∨ second.2 = .failed .timeOverflow) ↔
      ∀ c, a.add? b = some c →
        (p.perform (.moveClock (.advance c))).2 = .failed .timeOverflow) ∧
    (first.2 = .done → second.2 = .done →
      ∃ c, a.add? b = some c ∧ p.perform (.moveClock (.advance c)) = second)
  /-- A list of steps that has to go through as a whole. -/
  readings : ∀ steps, (ClockStep.readings? p.world.now steps).map (·.map (·.ticks)) =
    l.readings? steps
  unix : 0 ≤ l.exact → (p.world.now.unixSeconds : Int) = l.exact / 1000000000
  unix_before : l.exact < 0 → p.world.now.unixSeconds = 0
  unix_mono : ∀ t, p.world.now ≤ t → p.world.now.unixSeconds ≤ t.unixSeconds

theorem advance_twice (p : Process) (a b : Duration) :
    let first := p.perform (.moveClock (.advance a))
    let second := first.1.perform (.moveClock (.advance b))
    ((first.2 = .failed .timeOverflow ∨ second.2 = .failed .timeOverflow) ↔
      ∀ c, a.add? b = some c →
        (p.perform (.moveClock (.advance c))).2 = .failed .timeOverflow) ∧
    (first.2 = .done → second.2 = .done →
      ∃ c, a.add? b = some c ∧ p.perform (.moveClock (.advance c)) = second) := by
  intro first second
  have hsum := p.world.now.add?_bind_add? a b
  cases ha : p.world.now.add? a with
  | none =>
    have hfirst : first = (p, .failed .timeOverflow) := perform_advance_of_none ha
    rw [ha, Option.bind_none, eq_comm, Option.bind_eq_none_iff] at hsum
    rw [hfirst]
    refine ⟨iff_of_true (.inl rfl) fun c hc => ?_, nofun⟩
    rw [perform_advance_of_none (hsum c hc)]
  | some t =>
    have hfirst : first = (p.showing t, .done) := perform_advance_of_some ha
    rw [ha, Option.bind_some] at hsum
    cases hb : t.add? b with
    | none =>
      have hsecond : second = (p.showing t, .failed .timeOverflow) := by
        simp only [second, hfirst]
        exact perform_advance_of_none hb
      rw [hb, eq_comm, Option.bind_eq_none_iff] at hsum
      rw [hsecond]
      refine ⟨iff_of_true (.inr rfl) fun c hc => ?_, fun _ => nofun⟩
      rw [perform_advance_of_none (hsum c hc)]
    | some u =>
      have hsecond : second = (p.showing u, .done) := by
        simp only [second, hfirst]
        exact perform_advance_of_some hb
      rw [hb, eq_comm, Option.bind_eq_some_iff] at hsum
      obtain ⟨c, hc, hu⟩ := hsum
      have hsingle : p.perform (.moveClock (.advance c)) = (p.showing u, .done) :=
        perform_advance_of_some hu
      rw [hfirst, hsecond]
      refine ⟨iff_of_false (by simp) fun h => ?_, fun _ _ => ⟨c, hc, hsingle⟩⟩
      have hfailed := h c hc
      rw [hsingle] at hfailed
      cases hfailed

theorem clockFollows_of_ticks (h : p.world.now.ticks = l.exact) : p.ClockFollows l where
  nanoseconds := p.world.now.nanoseconds_lt
  reading := p.world.now.seconds_add_nanoseconds.trans h
  set t := p.perform_moveClock (.set t)
  advance d hd := by
    obtain ⟨t, ht, hend⟩ := Instant.exists_add?_of_fit (h ▸ hd)
    exact ⟨t, h ▸ hend, perform_advance_of_some ht⟩
  carry d t hd := by
    have hadd : p.world.now.add? d = some t := by
      cases hnow : p.world.now.add? d with
      | none =>
        rw [perform_advance_of_none hnow] at hd
        exact absurd (congrArg (·.2) hd) nofun
      | some u =>
        rw [perform_advance_of_some hnow] at hd
        exact congrArg some (congrArg (·.1.world.now) hd)
    exact (Instant.add?_eq_some_iff.1 hadd).parts
  overflow d hd := perform_advance_of_none (Instant.add?_eq_none_iff.2 (h ▸ hd))
  twice := p.advance_twice
  readings := ClockLog.readings?_eq h
  unix hpos := by
    rw [← h] at hpos ⊢
    simp only [Instant.unixSeconds, Instant.seconds, ticksPerSecond]
    omega
  unix_before hneg := by
    rw [← h] at hneg
    simp only [Instant.unixSeconds, Instant.seconds, ticksPerSecond]
    omega
  unix_mono _ := Instant.unixSeconds_mono

/-- From any instant on and after any run, the clock is exact, and what it cannot show changes
nothing. -/
theorem clock_is_exact (now : Instant) (ops : List Operation) :
    ((start now).run ops).ClockFollows (clockLog ⟨now, []⟩ ops) := by
  apply clockFollows_of_ticks
  apply ticks_run
  simp [start, World.start, ClockLog.exact]

end Process

/-- The longest span leads from the first instant to the last one, and no further. -/
example :
    let first : Instant := ⟨-(0x8000000000000000 * ticksPerSecond), by decide, by decide⟩
    let longest : Duration := ⟨0x10000000000000000 * ticksPerSecond - 1, by decide⟩
    let reading (t : Instant) := (t.seconds, t.nanoseconds)
    (ClockStep.readings? first [.advance longest]).map (·.map reading) =
        some [(0x7fffffffffffffff, 999999999)] ∧
      ClockStep.readings? first [.advance longest, .advance ⟨1, by decide⟩] = none := by
  decide

end StorageCalls
