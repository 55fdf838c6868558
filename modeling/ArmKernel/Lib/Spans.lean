import Mathlib.Algebra.Order.Group.Nat

/-!
# Time spent in spans

A history of disjoint spans of time is a list of them, the latest first. Up to any instant,
`covered` is the part of the time that lies in the spans and `outside` the rest of it.

Time that is measured from the end of each span to the beginning of the next adds up to `gaps`,
and this is all the time outside the spans up to the end of the last of them.
-/

namespace TimeSpans

structure Span where
  start : ℕ
  stop : ℕ

/-- The part of the span that lies before an instant. -/
def Span.before (span : Span) (time : ℕ) : ℕ := min span.stop time - min span.start time

def covered : List Span → ℕ → ℕ
  | [], _ => 0
  | span :: earlier, time => span.before time + covered earlier time

def outside (spans : List Span) (time : ℕ) : ℕ := time - covered spans time

def lastStop : List Span → ℕ
  | [] => 0
  | span :: _ => span.stop

/-- Each span begins when the one before it has ended, or later. -/
def Successive : List Span → Prop
  | [] => True
  | span :: earlier => lastStop earlier ≤ span.start ∧ span.start ≤ span.stop ∧ Successive earlier

/-- The times between the spans, and before the first of them. -/
def gaps : List Span → ℕ
  | [] => 0
  | span :: earlier => gaps earlier + (span.start - lastStop earlier)

section Histories

variable {span : Span} {spans earlier : List Span} {from' time : ℕ}

@[simp]
theorem covered_nil (time : ℕ) : covered [] time = 0 := rfl

@[simp]
theorem covered_cons (span : Span) (earlier : List Span) (time : ℕ) :
    covered (span :: earlier) time = span.before time + covered earlier time := rfl

theorem covered_add_gaps (successive : Successive spans) (areOver : lastStop spans ≤ time) :
    covered spans time + gaps spans = lastStop spans := by
  induction spans with
  | nil => rfl
  | cons span earlier ih =>
      rcases successive with ⟨startsAfter, positive, earlierSuccessive⟩
      have isOver : span.stop ≤ time := areOver
      have rest := ih earlierSuccessive (by omega)
      rw [covered_cons, gaps, lastStop, Span.before]
      omega

theorem covered_le_add (successive : Successive spans) (passes : from' ≤ time) :
    covered spans time ≤ covered spans from' + (time - from') := by
  induction spans generalizing from' time with
  | nil => exact Nat.zero_le _
  | cons span earlier ih =>
      rcases successive with ⟨startsAfter, positive, earlierSuccessive⟩
      rw [covered_cons, covered_cons, Span.before, Span.before]
      -- the earlier spans are over when this one begins
      rcases Nat.le_total time span.start with notBegun | begun
      · have rest := ih earlierSuccessive passes
        omega
      · have overAtEnd := covered_add_gaps earlierSuccessive (startsAfter.trans begun)
        have overAtStart := covered_add_gaps earlierSuccessive startsAfter
        rcases Nat.le_total from' span.start with notBegun | begunBefore
        · have rest := ih earlierSuccessive notBegun
          omega
        · have overBefore := covered_add_gaps earlierSuccessive (startsAfter.trans begunBefore)
          omega

theorem covered_le (successive : Successive spans) : covered spans time ≤ time := by
  have fromZero := covered_le_add successive (Nat.zero_le time)
  have noneAtZero : covered spans 0 = 0 := by
    induction spans with
    | nil => rfl
    | cons span earlier ih =>
        have rest := ih successive.2.2 (covered_le_add successive.2.2 (Nat.zero_le _))
        rw [covered_cons, Span.before, rest]
        omega
  omega

/-- The time outside the spans does not run backwards. -/
theorem outside_mono (successive : Successive spans) (passes : from' ≤ time) :
    outside spans from' ≤ outside spans time := by
  have slower := covered_le_add successive passes
  have bound := @covered_le spans from' successive
  rw [outside, outside]
  omega

theorem outside_of_lastStop_le (successive : Successive spans) (areOver : lastStop spans ≤ time) :
    outside spans time = gaps spans + (time - lastStop spans) := by
  have whole := covered_add_gaps successive areOver
  rw [outside]
  omega

theorem outside_within (successive : Successive (span :: earlier)) (begun : span.start ≤ time)
    (running : time ≤ span.stop) : outside (span :: earlier) time = gaps (span :: earlier) := by
  rcases successive with ⟨startsAfter, positive, earlierSuccessive⟩
  have whole := covered_add_gaps earlierSuccessive (startsAfter.trans begun)
  rw [outside, covered_cons, Span.before, gaps]
  omega

end Histories

end TimeSpans
