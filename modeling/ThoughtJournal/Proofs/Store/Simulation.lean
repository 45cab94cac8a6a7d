import ThoughtJournal.Proofs.Store.Queries
import ThoughtJournal.Store.Faulty

/-! # Stores that answer alike

A simulation relates the states of two kinds of stores: related stores give the same answers, and
an insertion leaves them related (`ThoughtStore.Simulation`). A simulation of the stores inside is
one of the failing stores around them (`ThoughtStore.Simulation.faulty`). The store in memory is
simulated by the database whose table has the same rows (`Relational.simulation_holds`).
-/

namespace ThoughtJournal

namespace ThoughtStore

variable {σ τ : Type} [ThoughtStore σ] [ThoughtStore τ]

/-- Related stores answer alike and stay related. -/
structure Simulation (related : σ → τ → Prop) : Prop where
  latest : ∀ {left right}, related left right → latest left = latest right
  count : ∀ {left right}, related left right → count left = count right
  stats : ∀ {left right}, related left right → stats left = stats right
  outcome : ∀ {left right}, related left right → ∀ thought,
    (insert left thought).1 = (insert right thought).1
  insert : ∀ {left right}, related left right → ∀ thought,
    related (insert left thought).2 (insert right thought).2

variable {related : σ → τ → Prop}

/-- Handing over thoughts has the same outcomes on related stores, and leaves them related. -/
theorem Simulation.insertAll (simulation : Simulation related) {left : σ} {right : τ}
    (alike : related left right) (thoughts : List Thought) :
    (insertAll left thoughts).1 = (insertAll right thoughts).1 ∧
      related (insertAll left thoughts).2 (insertAll right thoughts).2 := by
  induction thoughts generalizing left right with
  | nil => exact ⟨rfl, alike⟩
  | cons thought rest ih =>
      obtain ⟨outcomes, after⟩ := ih (simulation.insert alike thought)
      refine ⟨?_, after⟩
      rw [insertAll_cons, insertAll_cons, outcomes, simulation.outcome alike thought]

end ThoughtStore

namespace Faulty

variable {σ τ : Type}

/-- Failing stores at the same point of the same plan, with related stores inside. -/
structure Alike (related : σ → τ → Prop) (left : Faulty σ) (right : Faulty τ) : Prop where
  inner : related left.inner right.inner
  plan : left.plan = right.plan
  attempts : left.attempts = right.attempts

/-- Failing stores stay alike with another plan for both. -/
theorem Alike.withPlan {related : σ → τ → Prop} {left : Faulty σ} {right : Faulty τ}
    (alike : Alike related left right) (plan : FaultPlan) :
    Alike related (left.withPlan plan) (right.withPlan plan) :=
  ⟨alike.inner, rfl, alike.attempts⟩

end Faulty

namespace ThoughtStore

variable {σ τ : Type} [ThoughtStore σ] [ThoughtStore τ] {related : σ → τ → Prop}

/-- An attempt has the same outcome on alike failing stores, and leaves them alike. -/
theorem Simulation.insert_faulty (simulation : Simulation related) {left : Faulty σ}
    {right : Faulty τ} (alike : Faulty.Alike related left right) (thought : Thought) :
    (Faulty.insert left thought).1 = (Faulty.insert right thought).1 ∧
      Faulty.Alike related (Faulty.insert left thought).2 (Faulty.insert right thought).2 := by
  obtain ⟨inner, plan, attempts⟩ := alike
  unfold Faulty.insert
  rw [plan, attempts]
  cases planned : right.plan.insert right.attempts thought with
  | some failure => exact ⟨rfl, inner, rfl, rfl⟩
  | none => exact ⟨simulation.outcome inner thought, simulation.insert inner thought, rfl, rfl⟩

/-- Failures by the same plan keep stores alike. -/
theorem Simulation.faulty (simulation : Simulation related) :
    Simulation (Faulty.Alike related) where
  latest {left right} alike := by
    change Faulty.guarded left.plan.latest _ = Faulty.guarded right.plan.latest _
    rw [alike.plan, simulation.latest alike.inner]
  count alike := simulation.count alike.inner
  stats {left right} alike := by
    change Faulty.guarded left.plan.stats _ = Faulty.guarded right.plan.stats _
    rw [alike.plan, simulation.stats alike.inner]
  outcome alike thought := (simulation.insert_faulty alike thought).1
  insert alike thought := (simulation.insert_faulty alike thought).2

end ThoughtStore

namespace Relational

/-- The table of a database has the rows of a store in memory. -/
structure Holds (store : Memory) (database : Relational) : Prop where
  table : database.table = some (store.rows.map Row.ofThought)
  coherent : store.Coherent

/-- The database with its schema holds the rows of the empty store. -/
theorem holds_empty : Holds Memory.empty empty := ⟨rfl, Memory.coherent_empty⟩

/-- The unique column of the table has the checksums of the index. -/
theorem conflict_iff {store : Memory} (coherent : store.Coherent) (thought : Thought) :
    ((store.rows.map Row.ofThought).any fun row => row.checksum == thought.checksum) = true ↔
      thought.checksum ∈ store.checksums := by
  rw [List.any_map, List.any_eq_true, coherent.indexed, List.mem_map]
  constructor
  · rintro ⟨row, member, same⟩
    exact ⟨row, member, eq_of_beq same⟩
  · rintro ⟨row, member, same⟩
    exact ⟨row, member, beq_iff_eq.mpr same⟩

/-- The table accepts a thought if and only if the store in memory does, and holds its rows
afterwards. -/
theorem insert_of_holds {store : Memory} {database : Relational} (holds : Holds store database)
    (thought : Thought) :
    (database.insert thought).1 = .ok (store.insert thought).1 ∧
      Holds (store.insert thought).2 (database.insert thought).2 := by
  obtain ⟨table, coherent⟩ := holds
  have conflict := conflict_iff coherent thought
  unfold insert
  rw [table]
  dsimp only
  by_cases taken : thought.checksum ∈ store.checksums
  · rw [if_pos (conflict.mpr taken), Memory.insert_of_taken taken]
    exact ⟨rfl, table, coherent⟩
  · rw [if_neg fun present => taken (conflict.mp present)]
    have inserted := coherent.insert thought
    rw [Memory.insert_of_free taken] at inserted ⊢
    refine ⟨rfl, ?_, inserted⟩
    rw [List.map_append]
    rfl

/-- **The database answers like the store in memory with the same rows.** -/
theorem simulation_holds : ThoughtStore.Simulation Holds where
  latest {store database} holds := by
    change Except.ok store.latest = database.latest
    rw [latest, holds.table, ← latest_ofThought]
  count {store database} holds := by
    change Except.ok store.count = database.count
    rw [count, holds.table, Memory.count, ← List.length_map Row.ofThought]
  stats {store database} holds := by
    change Except.ok store.stats = database.stats
    rw [stats, holds.table, ← categoryView_ofThought]
  outcome holds thought := (insert_of_holds holds thought).1.symm
  insert holds thought := (insert_of_holds holds thought).2

end Relational

end ThoughtJournal
