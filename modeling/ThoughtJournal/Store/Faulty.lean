import ThoughtJournal.Store.Basic

/-! # Stores that fail

A store around another one whose answers fail by a plan. The plan names the failures of the queries
and, for every attempt of an insertion, whether it fails; a failing answer does not reach the store
inside.
-/

namespace ThoughtJournal

/-- Which answers of a store fail, and how. Attempts to insert are counted from zero. -/
structure FaultPlan where
  latest : Option Failure
  stats : Option Failure
  insert : Nat → Thought → Option Failure

/-- The plan by which nothing fails. -/
def FaultPlan.never : FaultPlan := ⟨none, none, fun _ _ => none⟩

/-- A store, the plan of its failures, and the number of attempts to insert made so far. -/
structure Faulty (σ : Type) where
  inner : σ
  plan : FaultPlan
  attempts : Nat

namespace Faulty

variable {σ : Type}

def ofStore (store : σ) : Faulty σ := ⟨store, FaultPlan.never, 0⟩

def withPlan (store : Faulty σ) (plan : FaultPlan) : Faulty σ := { store with plan }

/-- An answer that fails if the plan says so. -/
def guarded {α : Type} (planned : Option Failure) (answer : Except Failure α) : Except Failure α :=
  match planned with
  | some failure => .error failure
  | none => answer

variable [ThoughtStore σ]

/-- Hands a thought to the store inside unless the plan lets the attempt fail. -/
def insert (store : Faulty σ) (thought : Thought) : Except Failure InsertOutcome × Faulty σ :=
  match store.plan.insert store.attempts thought with
  | some failure => (.error failure, { store with attempts := store.attempts + 1 })
  | none =>
      let result := ThoughtStore.insert store.inner thought
      (result.1, { store with inner := result.2, attempts := store.attempts + 1 })

instance : ThoughtStore (Faulty σ) where
  latest store := guarded store.plan.latest (ThoughtStore.latest store.inner)
  count store := ThoughtStore.count store.inner
  stats store := guarded store.plan.stats (ThoughtStore.stats store.inner)
  insert := insert

/-- A failing attempt leaves the store inside as it is. -/
theorem insert_of_planned {store : Faulty σ} {thought : Thought} {failure : Failure}
    (planned : store.plan.insert store.attempts thought = some failure) :
    (insert store thought).2.inner = store.inner := by
  simp [insert, planned]

end Faulty

end ThoughtJournal
