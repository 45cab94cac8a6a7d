import Mathlib.Algebra.BigOperators.Group.List.Lemmas
import Mathlib.Algebra.GroupWithZero.Nat
import ThoughtJournal.Proofs.Store.Queries

/-! # Statistics, number and latest date

A store in memory goes over its rows three times: once for the statistics of the categories, once for
the number of the rows and once for their latest date. The answers fit together
(`Memory.queries_agree`). Every category that occurs has one line, which tells of its rows
(`Memory.summarises_of_mem_stats`), so the totals of the lines add up to the number of the rows
(`Memory.sum_totals_stats`) and the greatest date of a line is the latest date of the store
(`Memory.isGreatest_latest_stats`), also where all dates lie before the epoch that an empty store
answers with.
-/

namespace ThoughtJournal

namespace Text

/-- A member of a list that no member of it comes after. -/
structure IsGreatest (text : Text) (texts : List Text) : Prop where
  member : text ∈ texts
  bound : ∀ other ∈ texts, ¬ text < other

end Text

namespace Memory

/-! ## The latest date -/

/-- Going over rows from the first one ends with their greatest date. -/
theorem isGreatest_latestFrom (first : Thought) (rest : List Thought) :
    (latestFrom first.date rest).IsGreatest ((first :: rest).map Thought.date) := by
  constructor
  · rcases latestFrom_eq_or_exists first.date rest with start | ⟨row, later, dated⟩
    · rw [start]
      exact List.mem_cons_self
    · rw [← dated]
      exact List.mem_map_of_mem (List.mem_cons_of_mem first later)
  · intro date member
    obtain ⟨row, stored, rfl⟩ := List.mem_map.mp member
    rcases List.mem_cons.mp stored with rfl | later
    · exact not_latestFrom_lt_start row.date rest
    · exact not_latestFrom_lt later

/-- The latest date of a store with rows is the greatest date of them. -/
theorem isGreatest_latest {store : Memory} (filled : store.rows ≠ []) :
    store.latest.IsGreatest (store.rows.map Thought.date) := by
  obtain ⟨rows, checksums⟩ := store
  cases rows with
  | nil => exact absurd rfl filled
  | cons first rest => exact isGreatest_latestFrom first rest

/-! ## The lines of the statistics -/

/-- The rows of the category with a name. -/
def rowsOf (name : Text) (rows : List Thought) : List Thought :=
  rows.filter fun row => row.category.name == name

/-- A line that tells how many rows of its category there are and which of their dates is the
greatest. -/
structure Summarises (line : CategoryStats) (rows : List Thought) : Prop where
  total : line.total = (rowsOf line.category rows).length
  latest : line.latest.IsGreatest ((rowsOf line.category rows).map Thought.date)

theorem mem_rowsOf {name : Text} {rows : List Thought} {row : Thought} :
    row ∈ rowsOf name rows ↔ row ∈ rows ∧ row.category.name = name := by
  rw [rowsOf, List.mem_filter, beq_iff_eq]

/-- A category has as many rows as its name occurs among those of the rows. -/
theorem length_rowsOf (name : Text) (rows : List Thought) :
    (rowsOf name rows).length = (rows.map (·.category.name)).count name := by
  rw [rowsOf, ← List.countP_eq_length_filter, List.count, List.countP_map]
  rfl

/-- Every line of the statistics tells of the rows of its category. -/
theorem summarises_of_mem_stats {store : Memory} {line : CategoryStats}
    (member : line ∈ store.stats) : Summarises line store.rows := by
  obtain ⟨⟨name, tally⟩, entry, rfl⟩ := List.mem_map.mp member
  have tallied : tallyOf (rowsOf name store.rows) = some tally := by
    rw [rowsOf, ← get?_tallies]
    exact Dictionary.get?_of_mem entry
  cases listed : rowsOf name store.rows with
  | nil =>
      rw [listed] at tallied
      cases tallied
  | cons first rest =>
      rw [listed] at tallied
      cases tallied
      constructor
      · rw [listed]
        rfl
      · rw [listed]
        exact isGreatest_latestFrom first rest

/-- The lines stand in ascending order of the categories that occur, one for each. -/
theorem categories_stats (store : Memory) :
    store.stats.map CategoryStats.category =
      Text.ascendingSet (store.rows.map (·.category.name)) := by
  rw [← keys_tallies, stats, List.map_map]
  rfl

/-- The category of every row has a line. -/
theorem exists_line_of_mem_rows {store : Memory} {row : Thought} (stored : row ∈ store.rows) :
    ∃ line ∈ store.stats, line.category = row.category.name := by
  apply List.mem_map.mp
  rw [categories_stats, Text.mem_ascendingSet]
  exact List.mem_map_of_mem stored

/-! ## Totals and dates of all lines -/

/-- The totals of the categories add up to the number of the rows. -/
theorem sum_totals_stats (store : Memory) :
    (store.stats.map CategoryStats.total).sum = store.count := by
  have totals : store.stats.map CategoryStats.total =
      (store.stats.map CategoryStats.category).map fun name =>
        (store.rows.map (·.category.name)).count name := by
    rw [List.map_map]
    apply List.map_congr_left
    intro line member
    rw [(summarises_of_mem_stats member).total, length_rowsOf]
    rfl
  have distinct : (Text.ascendingSet (store.rows.map (·.category.name))).Perm
      (store.rows.map (·.category.name)).dedup := by
    apply (List.perm_ext_iff_of_nodup _ (List.nodup_dedup _)).mpr
    · intro name
      rw [Text.mem_ascendingSet, List.mem_dedup]
    · exact (Text.ascendingSet_ascending _).imp fun lower => Text.ne_of_lt lower
  have counted : ((store.rows.map (·.category.name)).dedup.map fun name =>
      (store.rows.map (·.category.name)).count name).sum = store.rows.length := by
    -- The texts have two ways of being compared, as lists and by their decidable equality.
    have same : (List.instBEq : BEq Text) = instBEqOfDecidableEq := lawful_beq_subsingleton _ _
    rw [same, List.sum_map_count_dedup_eq_length, List.length_map]
  rw [totals, categories_stats, (distinct.map _).sum_eq, counted]
  rfl

/-- The greatest date of a line is the latest date of the store. -/
theorem isGreatest_latest_stats {store : Memory} (filled : store.rows ≠ []) :
    store.latest.IsGreatest (store.stats.map CategoryStats.latest) := by
  have greatest := isGreatest_latest filled
  have bound : ∀ line ∈ store.stats, ¬ store.latest < line.latest := by
    intro line listed
    obtain ⟨row, counted, dated⟩ :=
      List.mem_map.mp (summarises_of_mem_stats listed).latest.member
    rw [← dated]
    exact greatest.bound row.date (List.mem_map_of_mem (mem_rowsOf.mp counted).1)
  constructor
  · -- The line of the category of a latest row has a date between that of the row and the latest.
    obtain ⟨row, stored, dated⟩ := List.mem_map.mp greatest.member
    obtain ⟨line, listed, named⟩ := exists_line_of_mem_rows stored
    have counted : row ∈ rowsOf line.category store.rows := mem_rowsOf.mpr ⟨stored, named.symm⟩
    have notAfter : ¬ line.latest < store.latest := by
      rw [← dated]
      exact (summarises_of_mem_stats listed).latest.bound row.date (List.mem_map_of_mem counted)
    rw [Text.eq_of_not_lt (bound line listed) notAfter]
    exact List.mem_map_of_mem listed
  · intro date member
    obtain ⟨line, listed, rfl⟩ := List.mem_map.mp member
    exact bound line listed

/-- **The three queries agree.** After any insertions into an empty store the statistics list exactly
the categories of the rows, in strictly ascending order; every line gives the number of the rows of
its category and the greatest of their dates; the totals add up to the number of rows; and if there
are rows, the greatest date of a line is the latest date of the store. -/
theorem queries_agree (thoughts : List Thought) :
    let store : Memory := (ThoughtStore.insertAll empty thoughts).2
    ∃ lines number latest, ThoughtStore.stats store = .ok lines ∧
      ThoughtStore.count store = .ok number ∧ ThoughtStore.latest store = .ok latest ∧
      (lines.map CategoryStats.category).Pairwise (· < ·) ∧
      (∀ name, name ∈ lines.map CategoryStats.category ↔
        ∃ row ∈ store.rows, row.category.name = name) ∧
      (∀ line ∈ lines, Summarises line store.rows) ∧
      number = store.rows.length ∧ (lines.map CategoryStats.total).sum = number ∧
      (store.rows ≠ [] → latest.IsGreatest (lines.map CategoryStats.latest)) := by
  intro store
  refine ⟨store.stats, store.count, store.latest, rfl, rfl, rfl, ?_, ?_, ?_, rfl,
    sum_totals_stats store, isGreatest_latest_stats⟩
  · rw [categories_stats]
    exact Text.ascendingSet_ascending _
  · intro name
    rw [categories_stats, Text.mem_ascendingSet]
    exact List.mem_map
  · intro line listed
    exact summarises_of_mem_stats listed

/-- Thoughts that arrive neither in the order of their dates nor category by category, one of them a
duplicate, and all dated before the epoch. -/
theorem queries_agree_before_epoch :
    let thoughts := [Thought.compose "1969-03-01".toList ['a'] .resource [],
      Thought.compose "1969-05-01".toList ['b'] .area [],
      Thought.compose "1969-04-01".toList ['c'] .resource [],
      Thought.compose "1969-06-01".toList ['a'] .project []]
    let store : Memory := (ThoughtStore.insertAll empty thoughts).2
    store.rows ≠ [] ∧ store.count = 3 ∧
      (⟨"resource".toList, 2, "1969-04-01".toList⟩ : CategoryStats) ∈ store.stats ∧
      Summarises ⟨"resource".toList, 2, "1969-04-01".toList⟩ store.rows ∧
      store.latest.IsGreatest (store.stats.map CategoryStats.latest) := by
  intro thoughts
  have filled : (ThoughtStore.insertAll empty thoughts).2.rows ≠ [] := by decide +kernel
  have counted : (ThoughtStore.insertAll empty thoughts).2.count = 3 := by decide +kernel
  have listed : (⟨"resource".toList, 2, "1969-04-01".toList⟩ : CategoryStats) ∈
      (ThoughtStore.insertAll empty thoughts).2.stats := by decide +kernel
  have agreed := queries_agree thoughts
  generalize (ThoughtStore.insertAll empty thoughts).2 = store at filled counted listed agreed ⊢
  obtain ⟨lines, number, latest, answered, _, dated, _, _, summaries, _, _, greatest⟩ := agreed
  have sameLines : store.stats = lines := Except.ok.inj answered
  have sameLatest : store.latest = latest := Except.ok.inj dated
  rw [← sameLines] at summaries greatest
  rw [← sameLatest] at greatest
  exact ⟨filled, counted, listed, summaries _ listed, greatest filled⟩

end Memory

end ThoughtJournal
