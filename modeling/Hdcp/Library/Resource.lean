/-
A resource that users share at the level of the largest demand.

Each user demands a level, the least one when it does not use the resource.  The level of the
resource satisfies all demands.  It is raised when a user demands more than it has, and is not
lowered before nobody demands anything; then the resource is off.
-/
import Mathlib.Data.Set.Insert
import Mathlib.Order.Lattice
import Mathlib.Order.BoundedOrder.Lattice

namespace Hdcp.Library

/-- The demands of the users `ι`, and the level of the order `α` that the resource has. -/
structure Resource (ι α : Type) [LinearOrder α] [OrderBot α] where
  demand : ι → α
  level : α
  demand_le : ∀ i, demand i ≤ level
  level_eq_bot : (∀ i, demand i = ⊥) → level = ⊥

namespace Resource

variable {ι α : Type} [LinearOrder α] [OrderBot α] {R : Resource ι α} {i j : ι} {x : α}

/-- Nobody uses the resource. -/
def idle : Resource ι α where
  demand _ := ⊥
  level := ⊥
  demand_le _ := le_rfl
  level_eq_bot _ := rfl

/-- The users of the resource. -/
def users (R : Resource ι α) : Set ι := {i | R.demand i ≠ ⊥}

lemma mem_users : i ∈ R.users ↔ R.demand i ≠ ⊥ := Iff.rfl

lemma users_idle : (idle : Resource ι α).users = ∅ :=
  Set.eq_empty_of_forall_notMem fun _ h => h rfl

/-- The resource is off when it has no users, and only then. -/
lemma level_eq_bot_iff : R.level = ⊥ ↔ R.users = ∅ := by
  refine ⟨fun h => Set.eq_empty_of_forall_notMem fun i hi => hi ?_, fun h => ?_⟩
  · exact le_bot_iff.1 (h ▸ R.demand_le i)
  · refine R.level_eq_bot fun i => not_not.1 fun hi => ?_
    exact Set.notMem_empty i (h ▸ hi)

section Request

variable [DecidableEq ι]

/-- A user demands the level `x` at least. -/
def request (R : Resource ι α) (i : ι) (x : α) : Resource ι α where
  demand := Function.update R.demand i (R.demand i ⊔ x)
  level := R.level ⊔ x
  demand_le j := by
    by_cases hj : j = i
    · subst hj
      rw [Function.update_self]
      exact sup_le_sup_right (R.demand_le j) x
    · rw [Function.update_of_ne hj]
      exact (R.demand_le j).trans le_sup_left
  level_eq_bot h := by
    have hi := h i
    rw [Function.update_self, sup_eq_bot_iff] at hi
    refine sup_eq_bot_iff.2 ⟨R.level_eq_bot fun j => ?_, hi.2⟩
    by_cases hj : j = i
    · exact hj ▸ hi.1
    · have hj' := h j
      rwa [Function.update_of_ne hj] at hj'

lemma users_request (hx : x ≠ ⊥) : (R.request i x).users = insert i R.users := by
  ext j
  rw [mem_users, Set.mem_insert_iff, mem_users, request]
  by_cases hj : j = i
  · subst hj
    simp [hx]
  · simp [hj]

/-- A demand that is satisfied already. -/
lemma level_request_of_le (h : x ≤ R.level) : (R.request i x).level = R.level :=
  sup_eq_left.2 h

/-- A demand that raises the level. -/
lemma level_request_of_lt (h : R.level < x) : (R.request i x).level = x := sup_eq_right.2 h.le

open Classical in
/-- A user gives the resource up. -/
noncomputable def release (R : Resource ι α) (i : ι) : Resource ι α where
  demand := Function.update R.demand i ⊥
  level := if ∀ j, Function.update R.demand i ⊥ j = ⊥ then ⊥ else R.level
  demand_le j := by
    by_cases h : ∀ j, Function.update R.demand i ⊥ j = ⊥
    · rw [h j]
      exact bot_le
    · rw [if_neg h]
      by_cases hj : j = i
      · subst hj
        rw [Function.update_self]
        exact bot_le
      · rw [Function.update_of_ne hj]
        exact R.demand_le j
  level_eq_bot h := if_pos h

lemma users_release : (R.release i).users = R.users \ {i} := by
  ext j
  rw [mem_users, Set.mem_sdiff, Set.mem_singleton_iff, mem_users, release]
  by_cases hj : j = i
  · subst hj
    simp
  · simp [hj]

/-- The level stays as it is as long as there are other users. -/
lemma level_release_of_mem (hj : j ∈ R.users) (hne : j ≠ i) : (R.release i).level = R.level := by
  refine if_neg fun h => hj ?_
  have hj' := h j
  rwa [Function.update_of_ne hne] at hj'

end Request

end Resource

end Hdcp.Library
