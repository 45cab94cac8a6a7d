import ThoughtJournal.Dictionary
import ThoughtJournal.Store.Basic

/-! # The store in memory

The rows in the order of their insertion, beside an index of their checksums. An insertion asks the
index alone.
-/

namespace ThoughtJournal

/-- Stored thoughts in the order of their insertion, and the checksums that are taken. -/
structure Memory where
  rows : List Thought
  checksums : List Text
deriving DecidableEq, Repr

namespace Memory

def empty : Memory := ⟨[], []⟩

/-- The latest date of a list of thoughts that is not earlier than `date`. -/
def latestFrom (date : Text) (rows : List Thought) : Text :=
  rows.foldl (fun latest thought => Text.latest latest thought.date) date

/-- The latest date among the rows, and the epoch if there is none. -/
def latest (store : Memory) : Text :=
  match store.rows with
  | [] => epoch
  | first :: rest => latestFrom first.date rest

def count (store : Memory) : Nat := store.rows.length

/-- The number and the latest date of the thoughts of one category. -/
structure Tally where
  total : Nat
  latest : Text
deriving DecidableEq, Repr

/-- The tally with one more thought. -/
def Tally.add (date : Text) : Option Tally → Tally
  | none => ⟨1, date⟩
  | some tally => ⟨tally.total + 1, Text.latest tally.latest date⟩

/-- The tallies of the categories with one more thought. -/
def tallyThought (tallies : Dictionary Tally) (thought : Thought) : Dictionary Tally :=
  let name := thought.category.name
  tallies.insert name (Tally.add thought.date (tallies.get? name))

/-- The categories of the rows in ascending order, each with its number and latest date. -/
def stats (store : Memory) : List CategoryStats :=
  (store.rows.foldl tallyThought Dictionary.empty).entries.map fun entry =>
    ⟨entry.1, entry.2.total, entry.2.latest⟩

/-- Stores a thought unless its checksum is taken. -/
def insert (store : Memory) (thought : Thought) : InsertOutcome × Memory :=
  if store.checksums.contains thought.checksum then (.duplicate, store)
  else (.inserted, ⟨store.rows ++ [thought], thought.checksum :: store.checksums⟩)

instance : ThoughtStore Memory where
  latest store := .ok store.latest
  count store := .ok store.count
  stats store := .ok store.stats
  insert store thought :=
    let result := store.insert thought
    (.ok result.1, result.2)

/-- A thought whose checksum is known changes nothing. -/
theorem insert_of_taken {store : Memory} {thought : Thought}
    (taken : thought.checksum ∈ store.checksums) :
    store.insert thought = (.duplicate, store) := by
  simp [insert, taken]

/-- A thought with a new checksum is put behind the rows. -/
theorem insert_of_free {store : Memory} {thought : Thought}
    (free : thought.checksum ∉ store.checksums) :
    store.insert thought =
      (.inserted, ⟨store.rows ++ [thought], thought.checksum :: store.checksums⟩) := by
  simp [insert, free]

end Memory

end ThoughtJournal
