import Mathlib.Algebra.BigOperators.Group.List.Basic
import Mathlib.Algebra.GroupWithZero.Nat
import TrafficRouter.Metrics

/-!
# Sums of counters

A counter with a label is one of a family, and who speaks of all answers or of all sessions classified
means the family: the counters of a metric together.

* `Ledger.sum`, `sum_eq_totals`: where the counters of a metric stand together;
* `total_le_sum`: no counter stands above its family;
* `total_flatMap`: what is counted apart and read together adds up.

NOT here: who counts what.
-/

namespace TrafficRouter

/-- What is counted, whatever the label. -/
inductive Metric where
  | connections
  | classified
  | httpResponses
  | connectFailures
  | relayBytes
  deriving DecidableEq, Repr

/-- The metric of a counter. -/
def Counter.metric : Counter → Metric
  | .connections => .connections
  | .classified _ => .classified
  | .httpResponses _ => .httpResponses
  | .connectFailures _ => .connectFailures
  | .relayBytes _ => .relayBytes

namespace Ledger

/-- Where the counters of a metric stand together. -/
def sum (metric : Metric) : Ledger → Nat
  | [] => 0
  | entry :: l => (if entry.1.metric = metric then entry.2 else 0) + sum metric l

variable (metric : Metric) (counter : Counter) (l k : Ledger)

@[simp] theorem sum_nil : sum metric [] = 0 := rfl

@[simp] theorem sum_append : sum metric (l ++ k) = sum metric l + sum metric k := by
  induction l with
  | nil => exact (Nat.zero_add _).symm
  | cons entry l ih =>
    show _ + sum metric (l ++ k) = _ + sum metric l + sum metric k
    rw [ih, Nat.add_assoc]

/-- **A counter stands at most where its metric does.** -/
theorem total_le_sum : total counter l ≤ sum counter.metric l := by
  induction l with
  | nil => exact Nat.le_refl 0
  | cons entry l ih =>
    refine Nat.add_le_add ?_ ih
    by_cases h : entry.1 = counter
    · exact Nat.le_of_eq ((if_pos h).trans (if_pos (congrArg Counter.metric h)).symm)
    · rw [if_neg h]
      exact Nat.zero_le _

/-- A metric at nothing has its counters at nothing. -/
theorem total_eq_zero_of_sum {l : Ledger} {counter : Counter} (h : sum counter.metric l = 0) :
    total counter l = 0 :=
  Nat.le_zero.mp (h ▸ total_le_sum counter l)

/-- One of several counters, each there once, gets what is added. -/
theorem sum_map_ite {counters : List Counter} (h : counters.Nodup) (counter : Counter) (n : Nat) :
    (counters.map fun k => if counter = k then n else 0).sum =
      if counter ∈ counters then n else 0 := by
  induction counters with
  | nil => rfl
  | cons k counters ih =>
    obtain ⟨hk, h⟩ := List.nodup_cons.mp h
    rw [List.map_cons, List.sum_cons, ih h]
    by_cases e : counter = k
    · subst e
      rw [if_pos rfl, if_neg hk, if_pos List.mem_cons_self, Nat.add_zero]
    · simp only [List.mem_cons, e, false_or, if_false, Nat.zero_add]

/-- **A metric stands at the sum of its counters**: those that the ledger mentions, and any others,
each once. -/
theorem sum_eq_totals {metric : Metric} {counters : List Counter} (hnodup : counters.Nodup)
    (hmetric : ∀ k ∈ counters, k.metric = metric) {l : Ledger}
    (hall : ∀ entry ∈ l, entry.1.metric = metric → entry.1 ∈ counters) :
    sum metric l = (counters.map fun k => total k l).sum := by
  induction l with
  | nil =>
    show 0 = (counters.map fun _ => 0).sum
    rw [List.map_const', List.sum_replicate_nat, Nat.mul_zero]
  | cons entry l ih =>
    have hmem : entry.1 ∈ counters ↔ entry.1.metric = metric :=
      ⟨hmetric entry.1, hall entry List.mem_cons_self⟩
    show _ + sum metric l =
      (counters.map fun k => (if entry.1 = k then entry.2 else 0) + total k l).sum
    rw [List.sum_map_add, sum_map_ite hnodup, ih fun e he => hall e (List.mem_cons_of_mem _ he)]
    simp only [hmem]

/-- **What several have counted adds up.** -/
theorem total_flatMap {α : Type} (ledger : α → Ledger) (of : List α) :
    total counter (of.flatMap ledger) = (of.map fun a => total counter (ledger a)).sum := by
  induction of with
  | nil => rfl
  | cons a of ih => rw [List.flatMap_cons, total_append, ih, List.map_cons, List.sum_cons]

end Ledger

end TrafficRouter
