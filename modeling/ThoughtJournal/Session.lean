import ThoughtJournal.Store.Faulty
import ThoughtJournal.Sync.Run

/-! # Sessions

A session is a sequence of operations on one store: insertions, queries, syncs, and changes of the
plan by which the store fails. The answers do not depend on how the store keeps its thoughts.
-/

namespace ThoughtJournal.Session

variable {σ : Type}

/-- An operation on a store. -/
inductive Operation where
  /-- Composes a thought and hands it to the store. -/
  | insert (date content : Text) (category : Category) (tags : List Text)
  /-- Splits a body into thoughts and hands them to the store. -/
  | atomize (date body : Text)
  /-- Asks for the latest date. -/
  | latest
  /-- Asks for the number of thoughts. -/
  | count
  /-- Asks for the categories. -/
  | stats
  /-- Resolves the watermark of a sync. -/
  | watermark
  /-- Replaces the plan by which the store fails. -/
  | plan (plan : FaultPlan)
  /-- Runs a sync. -/
  | sync (source : Sync.Source) (options : Sync.Options)

/-- The answer to an operation. -/
inductive Answer where
  | inserted (outcome : Except Failure InsertOutcome)
  | atomized (outcomes : List (Except Failure InsertOutcome))
  | latest (date : Except Failure Text)
  | count (number : Except Failure Nat)
  | stats (stats : Except Failure (List CategoryStats))
  | watermark (date : Except Sync.Fault Text)
  | planned
  | synced (outcome : Except Sync.Fault Sync.Report) (fetched : List Int)

variable [ThoughtStore σ]

/-- Carries out one operation. -/
def step (taxonomy : Taxonomy) (store : Faulty σ) : Operation → Answer × Faulty σ
  | .insert date content category tags =>
      let result := ThoughtStore.insert store (Thought.compose date content category tags)
      (.inserted result.1, result.2)
  | .atomize date body =>
      let result := ThoughtStore.insertAll store (taxonomy.atomize date body)
      (.atomized result.1, result.2)
  | .latest => (.latest (ThoughtStore.latest store), store)
  | .count => (.count (ThoughtStore.count store), store)
  | .stats => (.stats (ThoughtStore.stats store), store)
  | .watermark => (.watermark (Sync.resolveWatermark store), store)
  | .plan plan => (.planned, store.withPlan plan)
  | .sync source options =>
      let result := Sync.run source taxonomy options store
      (.synced result.outcome result.fetched, result.store)

/-- Carries out operations one after the other and gives their answers. -/
def run (taxonomy : Taxonomy) (store : Faulty σ) : List Operation → List Answer × Faulty σ
  | [] => ([], store)
  | operation :: rest =>
      let first := step taxonomy store operation
      let others := run taxonomy first.2 rest
      (first.1 :: others.1, others.2)

/-- The rest of a session begins with the store that the first operation leaves. -/
theorem run_cons (taxonomy : Taxonomy) (store : Faulty σ) (operation : Operation)
    (rest : List Operation) :
    run taxonomy store (operation :: rest) =
      ((step taxonomy store operation).1 :: (run taxonomy (step taxonomy store operation).2 rest).1,
        (run taxonomy (step taxonomy store operation).2 rest).2) := rfl

end ThoughtJournal.Session
