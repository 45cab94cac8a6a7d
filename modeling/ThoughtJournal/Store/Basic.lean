import ThoughtJournal.Failure
import ThoughtJournal.Journal
import ThoughtJournal.Thought

/-! # Stores of thoughts

A store keeps at most one thought for every checksum. It answers with the latest date among its
thoughts, their number, and the number and the latest date of every category; each answer can fail.
-/

namespace ThoughtJournal

/-- What became of a thought that was handed to a store. -/
inductive InsertOutcome where
  /-- The thought is stored now. -/
  | inserted
  /-- A thought with the same checksum was stored before. -/
  | duplicate
deriving DecidableEq, Repr

/-- The thoughts of one category: how many there are and when the latest was written. -/
structure CategoryStats where
  category : Text
  total : Nat
  latest : Text
deriving DecidableEq, Repr

/-- A store of thoughts with states of type `σ`. Only an insertion changes the state. -/
class ThoughtStore (σ : Type) where
  /-- The latest date of a stored thought, and the epoch if there is none. -/
  latest : σ → Except Failure Text
  /-- The number of stored thoughts. -/
  count : σ → Except Failure Nat
  /-- The categories of the stored thoughts in ascending order. -/
  stats : σ → Except Failure (List CategoryStats)
  /-- Hands a thought to the store. -/
  insert : σ → Thought → Except Failure InsertOutcome × σ

namespace ThoughtStore

variable {σ : Type} [ThoughtStore σ]

/-- Hands thoughts to the store one after the other and gives what became of each. -/
def insertAll (store : σ) : List Thought → List (Except Failure InsertOutcome) × σ
  | [] => ([], store)
  | thought :: rest =>
      let first := insert store thought
      let others := insertAll first.2 rest
      (first.1 :: others.1, others.2)

@[simp] theorem insertAll_nil (store : σ) : insertAll store [] = ([], store) := rfl

/-- The first thought is inserted, and then the others into the store that it leaves. -/
theorem insertAll_cons (store : σ) (thought : Thought) (rest : List Thought) :
    insertAll store (thought :: rest) =
      ((insert store thought).1 :: (insertAll (insert store thought).2 rest).1,
        (insertAll (insert store thought).2 rest).2) := rfl

/-- Every thought has an outcome. -/
@[simp] theorem length_insertAll (store : σ) (thoughts : List Thought) :
    (insertAll store thoughts).1.length = thoughts.length := by
  induction thoughts generalizing store with
  | nil => rfl
  | cons thought rest ih => simp [insertAll_cons, ih]

end ThoughtStore

end ThoughtJournal
