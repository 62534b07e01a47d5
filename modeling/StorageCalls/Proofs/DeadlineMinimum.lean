import Mathlib
import StorageCalls.Proofs.Deadlines

namespace StorageCalls

namespace Instant

def timeOf : Option Instant → WithTop Int
  | none => ⊤
  | some t => (t.ticks : Int)

/-- The end of a timeout that begins now, infinity when its full seconds do not fit in 64 bits with
a sign. -/
def exactEnd (now : Instant) (timeout : Duration) : WithTop Int :=
  let ticks : Int := now.ticks + timeout.ticks
  let seconds := ticks / ticksPerSecond
  if -0x8000000000000000 ≤ seconds ∧ seconds < 0x8000000000000000 then ticks else ⊤

variable {now : Instant} {timeout timeout' : Duration}

theorem timeOf_add? (now : Instant) (timeout : Duration) :
    timeOf (now.add? timeout) = now.exactEnd timeout := by
  unfold add? ofTicks? exactEnd
  simp only [seconds_fit_iff]
  split <;> rfl

theorem exactEnd_eq_top_iff : now.exactEnd timeout = ⊤ ↔ now.add? timeout = none := by
  rw [← timeOf_add?]
  cases now.add? timeout with
  | none => exact iff_of_true rfl rfl
  | some e => exact iff_of_false WithTop.coe_ne_top (Option.some_ne_none e)

theorem exactEnd_mono (now : Instant) (h : timeout.ticks ≤ timeout'.ticks) :
    now.exactEnd timeout ≤ now.exactEnd timeout' := by
  simp only [exactEnd, seconds_fit_iff]
  have hlower := now.lower
  split
  · split
    · exact WithTop.coe_le_coe.2 (by omega)
    · exact le_top
  · split
    · next hout hin => exact absurd ⟨by omega, by omega⟩ hout
    · exact le_top

theorem timeOf_lt_timeOf {s t : Instant} : timeOf (some s) < timeOf (some t) ↔ s < t :=
  WithTop.coe_lt_coe

theorem timeOf_ne_top (t : Instant) : timeOf (some t) ≠ ⊤ := WithTop.coe_ne_top

end Instant

def RequestKind.limit (kind : RequestKind) : WithTop Int := Instant.timeOf kind.deadline

namespace Deadline

open Instant (timeOf)

variable {now : Instant} {kind : RequestKind} {timeout timeout' : Duration}

/-- The deadline is the earlier of the end of the timeout and the end of the request. -/
structure IsMinimum (d : Deadline) (now : Instant) (kind : RequestKind) (timeout : Duration) :
    Prop where
  expires : timeOf d.expiresAt = min (now.exactEnd timeout) kind.limit
  limited : d.kind = some .limited ↔ ¬ kind.isBackground ∧ kind.limit < now.exactEnd timeout
  regular : d.kind = some .regular ↔
    ¬ kind.isBackground ∧ now.exactEnd timeout ≠ ⊤ ∧ ¬ kind.limit < now.exactEnd timeout
  unclassified : d.kind = none ↔
    kind.isBackground ∨ now.exactEnd timeout = ⊤ ∧ kind.limit = ⊤

theorem compute_background (h : timeout ≠ .zero) :
    compute now .background timeout = ⟨now.add? timeout, none⟩ := by
  rw [compute, Duration.isZero, beq_eq_false_iff_ne.2 (Duration.ticks_ne_zero h)]
  rfl

theorem compute_of_limited {limit : Instant} (h : timeout ≠ .zero)
    (hlimit : timeOf (some limit) < now.exactEnd timeout) :
    compute now (.web (some limit)) timeout = ⟨some limit, some .limited⟩ := by
  rw [compute, Duration.isZero, beq_eq_false_iff_ne.2 (Duration.ticks_ne_zero h)]
  rw [← Instant.timeOf_add?] at hlimit
  cases hadd : now.add? timeout with
  | none => rfl
  | some regular =>
    rw [hadd, Instant.timeOf_lt_timeOf] at hlimit
    simp only [Bool.false_eq_true, if_false, if_pos hlimit]

theorem compute_of_not_limited {deadline : Option Instant} (h : timeout ≠ .zero)
    (hlimit : ¬ timeOf deadline < now.exactEnd timeout) :
    compute now (.web deadline) timeout =
      ⟨now.add? timeout, (now.add? timeout).map fun _ => .regular⟩ := by
  rw [compute, Duration.isZero, beq_eq_false_iff_ne.2 (Duration.ticks_ne_zero h)]
  rw [← Instant.timeOf_add?] at hlimit
  cases hadd : now.add? timeout with
  | none =>
    cases deadline with
    | none => rfl
    | some limit =>
      rw [hadd] at hlimit
      exact absurd (lt_top_iff_ne_top.2 (Instant.timeOf_ne_top limit)) hlimit
  | some regular =>
    cases deadline with
    | none => rfl
    | some limit =>
      rw [hadd, Instant.timeOf_lt_timeOf] at hlimit
      simp only [Bool.false_eq_true, if_false, if_neg hlimit]
      rfl

theorem isMinimum_compute (h : timeout ≠ .zero) :
    (compute now kind timeout).IsMinimum now kind timeout := by
  cases kind with
  | background =>
    rw [compute_background h]
    exact {
      expires := by
        rw [Instant.timeOf_add?]
        exact (min_eq_left le_top).symm
      limited := by simp [RequestKind.isBackground]
      regular := by simp [RequestKind.isBackground]
      unclassified := by simp [RequestKind.isBackground] }
  | web deadline =>
    have hlimit : (RequestKind.web deadline).limit = timeOf deadline := rfl
    by_cases hlt : timeOf deadline < now.exactEnd timeout
    · obtain ⟨limit, rfl⟩ : ∃ limit, deadline = some limit :=
        Option.ne_none_iff_exists'.1 fun hnone => not_top_lt (hnone ▸ hlt)
      rw [compute_of_limited h hlt]
      exact {
        expires := (min_eq_right hlt.le).symm
        limited := by simp [RequestKind.isBackground, hlimit, hlt]
        regular := by simp [hlimit, hlt]
        unclassified := by simp [RequestKind.isBackground, hlimit, Instant.timeOf_ne_top] }
    · rw [compute_of_not_limited h hlt]
      exact {
        expires := by
          rw [hlimit, min_eq_left (not_lt.1 hlt)]
          exact Instant.timeOf_add? now timeout
        limited := by simp [hlimit, hlt]
        regular := by
          rw [hlimit, Ne, Instant.exactEnd_eq_top_iff]
          cases now.add? timeout <;> simp [RequestKind.isBackground, hlt]
        unclassified := by
          have htop : now.exactEnd timeout = ⊤ → timeOf deadline = ⊤ := fun he =>
            top_le_iff.1 (he ▸ not_lt.1 hlt)
          rw [hlimit, and_iff_left_of_imp htop, Instant.exactEnd_eq_top_iff]
          simp [RequestKind.isBackground] }

/-- What is said of the deadlines that are computed at an instant. -/
structure ExactAt (now : Instant) : Prop where
  unbounded : ∀ kind, compute now kind .zero = ⟨none, none⟩
  minimum : ∀ kind timeout, timeout ≠ .zero → (compute now kind timeout).IsMinimum now kind timeout
  le_end : ∀ kind timeout, timeout ≠ .zero →
    timeOf (compute now kind timeout).expiresAt ≤ now.exactEnd timeout
  le_limit : ∀ kind timeout, timeout ≠ .zero →
    timeOf (compute now kind timeout).expiresAt ≤ kind.limit
  mono_timeout : ∀ kind timeout timeout', timeout ≠ .zero → timeout.ticks ≤ timeout'.ticks →
    timeOf (compute now kind timeout).expiresAt ≤ timeOf (compute now kind timeout').expiresAt
  mono_limit : ∀ deadline deadline' timeout, timeout ≠ .zero → timeOf deadline ≤ timeOf deadline' →
    timeOf (compute now (.web deadline) timeout).expiresAt ≤
      timeOf (compute now (.web deadline') timeout).expiresAt

/-- At every instant deadlines are computed as in exact arithmetic, up to both ends of the range. -/
theorem computed_as_exact_minimum (now : Instant) : ExactAt now where
  unbounded _ := rfl
  minimum _ _ h := isMinimum_compute h
  le_end _ _ h := (isMinimum_compute h).expires ▸ min_le_left _ _
  le_limit _ _ h := (isMinimum_compute h).expires ▸ min_le_right _ _
  mono_timeout kind timeout timeout' h hle := by
    have h' : timeout' ≠ .zero := by
      rintro rfl
      exact Duration.ticks_ne_zero h (Nat.le_zero.1 hle)
    rw [(isMinimum_compute h).expires, (isMinimum_compute h').expires]
    exact min_le_min_right _ (Instant.exactEnd_mono now hle)
  mono_limit deadline deadline' timeout h hle := by
    rw [(isMinimum_compute h).expires, (isMinimum_compute h).expires]
    exact min_le_min_left _ hle

/-- A carry of nanoseconds at the last second is the one that has no place. -/
example :
    let last : Instant := ⟨0x8000000000000000 * ticksPerSecond - 2, by decide, by decide⟩
    (compute last .background ⟨1, by decide⟩).expiresAt.map (·.nanoseconds) = some 999999999 ∧
      compute last (.web none) ⟨2, by decide⟩ = ⟨none, none⟩ ∧
      compute last (.web (some last)) ⟨2, by decide⟩ = ⟨some last, some .limited⟩ := by
  decide

end Deadline

end StorageCalls
