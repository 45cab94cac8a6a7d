import ThoughtJournal.Proofs.Store.Rows

/-! # The latest date of a store

The watermark of a store in memory is the greatest date of its rows: the date of one of them
(`Memory.latest_eq_epoch_or_exists`), and no row is dated after it (`Memory.not_latest_lt`). Only a
store without rows answers with the epoch that stands for no date.
-/

namespace ThoughtJournal

namespace Text

theorem latest_eq_or_eq (left right : Text) :
    latest left right = left ∨ latest left right = right := by
  unfold latest
  split
  · exact Or.inr rfl
  · exact Or.inl rfl

theorem not_latest_lt_left (left right : Text) : ¬ latest left right < left := by
  unfold latest
  split
  · rename_i lower
    exact List.lt_asymm ((before_iff _ _).mp lower)
  · exact List.lt_irrefl left

theorem not_latest_lt_right (left right : Text) : ¬ latest left right < right := by
  unfold latest
  split
  · exact List.lt_irrefl right
  · rename_i notLower
    exact fun lower => notLower ((before_iff _ _).mpr lower)

end Text

namespace Memory

theorem latestFrom_cons (date : Text) (row : Thought) (rest : List Thought) :
    latestFrom date (row :: rest) = latestFrom (Text.latest date row.date) rest := rfl

/-- The latest date is the date it starts from or the date of a row. -/
theorem latestFrom_eq_or_exists (date : Text) (rows : List Thought) :
    latestFrom date rows = date ∨ ∃ row ∈ rows, row.date = latestFrom date rows := by
  induction rows generalizing date with
  | nil => exact Or.inl rfl
  | cons first rest ih =>
      rw [latestFrom_cons]
      rcases ih (Text.latest date first.date) with start | ⟨row, member, dated⟩
      · rw [start]
        rcases Text.latest_eq_or_eq date first.date with kept | taken
        · exact Or.inl kept
        · exact Or.inr ⟨first, List.mem_cons_self, taken.symm⟩
      · exact Or.inr ⟨row, List.mem_cons_of_mem first member, dated⟩

/-- Going over rows never goes back in time. -/
theorem not_latestFrom_lt_start (date : Text) (rows : List Thought) :
    ¬ latestFrom date rows < date := by
  induction rows generalizing date with
  | nil => exact List.lt_irrefl date
  | cons first rest ih =>
      rw [latestFrom_cons]
      intro lower
      exact ih _ (Text.lt_of_lt_of_not_lt lower (Text.not_latest_lt_left date first.date))

/-- No row is dated after the date that going over the rows ends with. -/
theorem not_latestFrom_lt {date : Text} {rows : List Thought} {row : Thought}
    (member : row ∈ rows) : ¬ latestFrom date rows < row.date := by
  induction rows generalizing date with
  | nil => exact absurd member List.not_mem_nil
  | cons first rest ih =>
      rw [latestFrom_cons]
      rcases List.mem_cons.mp member with rfl | later
      · intro lower
        exact not_latestFrom_lt_start _ rest
          (Text.lt_of_lt_of_not_lt lower (Text.not_latest_lt_right date row.date))
      · exact ih later

/-- The latest date belongs to a row unless there are no rows. -/
theorem latest_eq_epoch_or_exists (store : Memory) :
    store.rows = [] ∧ store.latest = epoch ∨ ∃ row ∈ store.rows, row.date = store.latest := by
  obtain ⟨rows, checksums⟩ := store
  cases rows with
  | nil => exact Or.inl ⟨rfl, rfl⟩
  | cons first rest =>
      rcases latestFrom_eq_or_exists first.date rest with start | ⟨row, member, dated⟩
      · exact Or.inr ⟨first, List.mem_cons_self, start.symm⟩
      · exact Or.inr ⟨row, List.mem_cons_of_mem first member, dated⟩

/-- No row is dated after the latest date. -/
theorem not_latest_lt {store : Memory} {row : Thought} (member : row ∈ store.rows) :
    ¬ store.latest < row.date := by
  obtain ⟨rows, checksums⟩ := store
  cases rows with
  | nil => exact absurd member List.not_mem_nil
  | cons first rest =>
      rcases List.mem_cons.mp member with rfl | later
      · exact not_latestFrom_lt_start row.date rest
      · exact not_latestFrom_lt later

/-- A date after the latest one of a store stays after it when only earlier thoughts are appended. -/
theorem latest_lt_of_rows {base store : Memory} {added : List Thought}
    (rows : store.rows = base.rows ++ added) {date : Text} (afterBase : base.latest < date)
    (afterAdded : ∀ row ∈ added, row.date < date) : store.latest < date := by
  rcases store.latest_eq_epoch_or_exists with ⟨none, unset⟩ | ⟨row, stored, dated⟩
  · have noBase : base.rows = [] := (List.append_eq_nil_iff.mp (rows ▸ none)).1
    rcases base.latest_eq_epoch_or_exists with ⟨_, baseUnset⟩ | ⟨row, stored, _⟩
    · exact unset ▸ baseUnset ▸ afterBase
    · exact absurd (noBase ▸ stored) List.not_mem_nil
  · rw [rows] at stored
    rw [← dated]
    rcases List.mem_append.mp stored with old | new
    · exact Text.lt_of_not_lt_of_lt (not_latest_lt old) afterBase
    · exact afterAdded row new

/-- Appending later thoughts does not take the latest date back. -/
theorem not_latest_lt_of_rows {base store : Memory} {added : List Thought}
    (rows : store.rows = base.rows ++ added) (later : ∀ row ∈ added, base.latest < row.date) :
    ¬ store.latest < base.latest := by
  rcases base.latest_eq_epoch_or_exists with ⟨noBase, unset⟩ | ⟨row, stored, dated⟩
  · rcases store.latest_eq_epoch_or_exists with ⟨_, stillUnset⟩ | ⟨row, stored, dated⟩
    · rw [unset, stillUnset]
      exact List.lt_irrefl epoch
    · rw [rows, noBase, List.nil_append] at stored
      exact dated ▸ List.lt_asymm (later row stored)
  · have kept : row ∈ store.rows := by
      rw [rows]
      exact List.mem_append_left _ stored
    exact dated ▸ not_latest_lt kept

end Memory

end ThoughtJournal
