/-!
# Running until nothing happens

A machine whose step is a partial function is run until it has no step. Where a bound on the number
of steps is given, `settle` runs at most that many; `settle_induct` carries what each step keeps
over the run.
-/

namespace TrafficRouter

/-- The state after at most `bound` steps, or where there is no step. -/
def settle {State : Type} (step : State → Option State) : Nat → State → State
  | 0, s => s
  | bound + 1, s =>
    match step s with
    | none => s
    | some s => settle step bound s

theorem settle_induct {State : Type} {step : State → Option State} {P : State → Prop}
    (keep : ∀ s t, P s → step s = some t → P t) (bound : Nat) {s : State} (h : P s) :
    P (settle step bound s) := by
  induction bound generalizing s with
  | zero => exact h
  | succ bound ih =>
    rw [settle]
    split
    · exact h
    · next t ht => exact ih (keep s t h ht)

/-- Where what every step keeps makes every step shrink a measure that the bound is not below, the run
ends with no step left. -/
theorem step_settle_eq_none {State : Type} {step : State → Option State} {P : State → Prop}
    (size : State → Nat) (keep : ∀ s t, P s → step s = some t → P t)
    (shrink : ∀ s t, P s → step s = some t → size t < size s) {bound : Nat} {s : State} (hs : P s)
    (h : size s < bound) : step (settle step bound s) = none := by
  induction bound generalizing s with
  | zero => omega
  | succ bound ih =>
    rw [settle]
    split
    · assumption
    · next t ht =>
      have hlt := shrink s t hs ht
      exact ih (keep s t hs ht) (by omega)

end TrafficRouter
