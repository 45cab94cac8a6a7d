import Mathlib.Data.List.Induction
import Mathlib.Data.List.Nodup
import ThoughtJournal.Proofs.Store.LatestDate
import ThoughtJournal.Proofs.Text.AscendingSet
import ThoughtJournal.Proofs.Text.ByteOrder

/-! # The queries of the two stores

What the database computes from its table by grouping and by aggregates, the store in memory
computes from its rows by going over them once. A greatest date is the end of a fold over the dates
(`Relational.maximum_entryDate`), the distinct categories are the keys of the tallies
(`Memory.keys_tallies`), and the tally of a category is that of its rows (`Memory.get?_tallies`). So
the view of the categories is the statistics of the rows (`Relational.categoryView_ofThought`).
-/

namespace ThoughtJournal

namespace Relational

/-- With one more text the greatest is the later of the last and the greatest so far. -/
theorem maximum_concat {texts : List Text} {greatest : Text}
    (found : maximum texts = some greatest) (last : Text) :
    maximum (texts ++ [last]) = some (Text.latest greatest last) := by
  rw [maximum, List.foldl_append, ← maximum, found, Text.latest, ← bytesBefore_eq_before]
  rfl

/-- The greatest of texts is the end of a fold over them. -/
theorem maximum_cons (first : Text) (rest : List Text) :
    maximum (first :: rest) = some (rest.foldl Text.latest first) := by
  induction rest using List.reverseRecOn with
  | nil => rfl
  | append_singleton rest last ih =>
      rw [← List.cons_append, maximum_concat ih, List.foldl_append]
      rfl

/-- The greatest date of a table is the one that going over the rows ends with. -/
theorem maximum_entryDate (first : Thought) (rest : List Thought) :
    maximum (((first :: rest).map Row.ofThought).map Row.entryDate) =
      some (Memory.latestFrom first.date rest) := by
  rw [List.map_map, List.map_cons, maximum_cons, List.foldl_map]
  rfl

/-- A group is put in as a text is put into an ascending list. -/
theorem insertGroup_eq_insertDistinct (text : Text) (texts : List Text) :
    insertGroup text texts = Text.insertDistinct text texts := by
  induction texts with
  | nil => rfl
  | cons head rest ih =>
      unfold insertGroup Text.insertDistinct
      rw [bytesBefore_eq_before, ih]
      rcases Text.lt_trichotomy text head with lower | rfl | upper
      · have apart : (text == head) = false := beq_eq_false_iff_ne.mpr (Text.ne_of_lt lower)
        rw [apart, (Text.before_iff _ _).mpr lower]
        rfl
      · have notBefore : Text.before text text = false :=
          decide_eq_false (List.lt_irrefl text)
        rw [beq_self_eq_true, notBefore]
        rfl
      · have apart : (text == head) = false := beq_eq_false_iff_ne.mpr (Text.ne_of_lt upper).symm
        have notBefore : Text.before text head = false := decide_eq_false (List.lt_asymm upper)
        rw [apart, notBefore, (Text.before_iff _ _).mpr upper]
        rfl

/-- Grouping lists the distinct texts in ascending order. -/
theorem groups_eq_ascendingSet (texts : List Text) : groups texts = Text.ascendingSet texts := by
  induction texts with
  | nil => rfl
  | cons text rest ih =>
      rw [Text.ascendingSet_cons, ← ih, ← insertGroup_eq_insertDistinct]
      rfl

end Relational

namespace Memory

/-- The tallies of the categories of rows. -/
def tallies (rows : List Thought) : Dictionary Tally := rows.foldl tallyThought Dictionary.empty

/-- The tally of rows that are all of one category, unless there are none. -/
def tallyOf : List Thought → Option Tally
  | [] => none
  | first :: rest => some ⟨rest.length + 1, latestFrom first.date rest⟩

/-- One more row is tallied after the others. -/
theorem tallies_concat (rows : List Thought) (thought : Thought) :
    tallies (rows ++ [thought]) = tallyThought (tallies rows) thought := by
  rw [tallies, List.foldl_append]
  rfl

/-- One more row of the category is added to its tally. -/
theorem tallyOf_concat (rows : List Thought) (thought : Thought) :
    tallyOf (rows ++ [thought]) = some (Tally.add thought.date (tallyOf rows)) := by
  cases rows with
  | nil => rfl
  | cons first rest =>
      rw [List.cons_append, tallyOf, tallyOf, latestFrom, List.foldl_append, List.length_append]
      rfl

/-- The categories that are tallied are those of the rows. -/
theorem mem_keys_tallies (name : Text) (rows : List Thought) :
    name ∈ (tallies rows).keys ↔ name ∈ rows.map (·.category.name) := by
  induction rows using List.reverseRecOn with
  | nil => exact Iff.rfl
  | append_singleton rows thought ih =>
      rw [tallies_concat, tallyThought, Dictionary.keys_insert, Text.mem_insertDistinct, ih,
        List.map_append, List.mem_append, List.map_singleton, List.mem_singleton]
      exact or_comm

/-- The tallies are those of the categories that occur. -/
theorem keys_tallies (rows : List Thought) :
    (tallies rows).keys = Text.ascendingSet (rows.map (·.category.name)) := by
  apply Text.eq_of_ascending (tallies rows).ascending (Text.ascendingSet_ascending _)
  intro name
  rw [Text.mem_ascendingSet]
  exact mem_keys_tallies name rows

/-- A category is tallied over its rows. -/
theorem get?_tallies (name : Text) (rows : List Thought) :
    (tallies rows).get? name = tallyOf (rows.filter fun row => row.category.name == name) := by
  -- The tallies are folded from the left, so it is the last row that a step adds.
  induction rows using List.reverseRecOn with
  | nil => rfl
  | append_singleton rows thought ih =>
      rw [tallies_concat, tallyThought, List.filter_append, List.filter_singleton]
      by_cases same : thought.category.name = name
      · subst same
        rw [Dictionary.get?_insert_self, ih, beq_self_eq_true, cond_true, tallyOf_concat]
      · have apart : (thought.category.name == name) = false := beq_eq_false_iff_ne.mpr same
        rw [Dictionary.get?_insert_of_ne _ (Ne.symm same), ih, apart, cond_false, List.append_nil]

end Memory

namespace Relational

/-- The latest date of the table is that of the store in memory. -/
theorem latest_ofThought (store : Memory) :
    (maximum ((store.rows.map Row.ofThought).map Row.entryDate)).getD epoch = store.latest := by
  obtain ⟨rows, checksums⟩ := store
  cases rows with
  | nil => rfl
  | cons first rest =>
      rw [maximum_entryDate]
      rfl

/-- A line of the view comes from the rows of its category. -/
theorem categoryView_line {name : Text} {tally : Memory.Tally} {rows : List Thought}
    (tallied : Memory.tallyOf (rows.filter fun row => row.category.name == name) = some tally) :
    let members := (rows.map Row.ofThought).filter fun row => row.category == name
    (⟨name, members.length, (maximum (members.map Row.entryDate)).getD []⟩ : CategoryStats) =
      ⟨name, tally.total, tally.latest⟩ := by
  intro members
  have fromRows : members =
      (rows.filter fun row => row.category.name == name).map Row.ofThought := List.filter_map
  rw [fromRows, List.length_map]
  cases listed : rows.filter fun row => row.category.name == name with
  | nil =>
      rw [listed] at tallied
      exact absurd tallied.symm (Option.some_ne_none tally)
  | cons first rest =>
      rw [listed] at tallied
      cases tallied
      rw [maximum_entryDate]
      rfl

/-- **The view of the categories is the statistics of the rows.** -/
theorem categoryView_ofThought (store : Memory) :
    categoryView (store.rows.map Row.ofThought) = store.stats := by
  have names : (store.rows.map Row.ofThought).map Row.category =
      store.rows.map (·.category.name) := List.map_map
  rw [categoryView, names, groups_eq_ascendingSet, ← Memory.keys_tallies, Dictionary.keys,
    List.map_map]
  apply List.map_congr_left
  -- An entry of the tallies is that of its key, which is the tally of the rows with that category.
  intro entry member
  apply categoryView_line
  rw [← Memory.get?_tallies]
  exact Dictionary.get?_of_mem member

end Relational

end ThoughtJournal
