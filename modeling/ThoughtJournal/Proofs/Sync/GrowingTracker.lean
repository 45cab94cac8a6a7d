import ThoughtJournal.Proofs.Sync.Timeline

/-! # Syncing with a growing tracker

A tracker to which journals are added, each titled after the ones before it, and a store that is
brought up to date by incremental syncs at arbitrary times. The source lists only the newest
journals of the tracker. As long as no journal that the store still waits for has left this window,
every sync leaves the store with the first occurrences among the thoughts of the whole tracker
(`Sync.Upkeep.rows_after_sync`).

The store itself does not know which journals it has read, only the latest date among its rows.
Journals that added nothing do not move that date and are read again. The invariant
(`Sync.Upkeep.Current`) therefore counts a journal as read when it is titled no later than the
latest date, whatever syncs have read it.
-/

namespace ThoughtJournal.Sync

/-- The last journals of a tracker, as many as fit into a window. -/
def newest (window : Nat) (tracker : List Journal) : List Journal :=
  tracker.drop (tracker.length - window)

/-- What is newer than a date can be read off the window if it fits into it. -/
theorem newerThan_newest {tracker : List Journal} (ordered : Ordered tracker) {date : Text}
    {window : Nat} (fits : (newerThan date tracker).length ≤ window) :
    newerThan date (newest window tracker) = newerThan date tracker := by
  have cut := ordered.cut date
  have lengths : (datedUpTo date tracker).length + (newerThan date tracker).length =
      tracker.length := by
    rw [← List.length_append, cut]
  have left : tracker.length - window ≤ (datedUpTo date tracker).length := by omega
  have window_eq : newest window tracker =
      (datedUpTo date tracker).drop (tracker.length - window) ++ newerThan date tracker := by
    unfold newest
    rw [← List.drop_append_of_le_length left, cut]
  have oldPart : newerThan date ((datedUpTo date tracker).drop (tracker.length - window)) = [] := by
    unfold newerThan
    rw [List.filter_eq_nil_iff]
    intro journal member
    have old := (List.mem_filter.mp (List.mem_of_mem_drop member)).2
    simpa only [decide_eq_true_eq] using old
  have newPart : newerThan date (newerThan date tracker) = newerThan date tracker := by
    unfold newerThan
    rw [List.filter_filter]
    simp only [Bool.and_self]
  calc newerThan date (newest window tracker)
      = newerThan date ((datedUpTo date tracker).drop (tracker.length - window)) ++
          newerThan date (newerThan date tracker) := by
        rw [window_eq]
        exact List.filter_append _ _
    _ = newerThan date tracker := by rw [oldPart, newPart, List.nil_append]

/-- **The window suffices.** From a listing of the newest journals in any order, a sync selects the
journals of the tracker that are titled after its watermark, in the order of the tracker. -/
theorem selectDelta_window {tracker listing : List Journal} (ordered : Ordered tracker)
    {date : Text} {window : Nat} (fits : (newerThan date tracker).length ≤ window)
    (listed : listing.Perm (newest window tracker)) :
    Journal.selectDelta date listing = newerThan date tracker := by
  apply selectDelta_of_perm ordered
  rw [← newerThan_newest ordered fits]
  exact listed.filter _

/-! ## Histories -/

/-- A tracker and the store that is kept up to date with it. -/
structure Upkeep where
  tracker : List Journal
  store : Memory

namespace Upkeep

/-- No journal and no thought. -/
def start : Upkeep := ⟨[], Memory.empty⟩

/-- What can happen: a journal is added at the end of the tracker, or a sync reads a source. -/
inductive Event where
  | publish (journal : Journal)
  | sync (source : Source)

/-- The tracker and the store after an event. -/
def step (taxonomy : Taxonomy) (upkeep : Upkeep) : Event → Upkeep
  | .publish journal => { upkeep with tracker := upkeep.tracker ++ [journal] }
  | .sync source => { upkeep with store := (run source taxonomy .incremental upkeep.store).store }

/-- The tracker and the store after a history. -/
def after (taxonomy : Taxonomy) (upkeep : Upkeep) (history : List Event) : Upkeep :=
  history.foldl (step taxonomy) upkeep

/-- A journal is titled after the epoch and after every journal before it. A source serves the
newest journals, in any order, among them all that are newer than the store. -/
def Permits (bodies : Int → Text) (window : Nat) (upkeep : Upkeep) : Event → Prop
  | .publish journal =>
      epoch < journal.title ∧ ∀ earlier ∈ upkeep.tracker, earlier.title < journal.title
  | .sync source =>
      (newerThan upkeep.store.latest upkeep.tracker).length ≤ window ∧
        ∃ listing, listing.Perm (newest window upkeep.tracker) ∧ source.Serves listing bodies

/-- Every event of a history is permitted where it happens. -/
def Regular (taxonomy : Taxonomy) (bodies : Int → Text) (window : Nat) :
    Upkeep → List Event → Prop
  | _, [] => True
  | upkeep, event :: rest =>
      upkeep.Permits bodies window event ∧
        Regular taxonomy bodies window (upkeep.step taxonomy event) rest

/-- The rows are the first occurrences among the thoughts of the journals titled no later than the
latest row. -/
structure Current (taxonomy : Taxonomy) (bodies : Int → Text) (upkeep : Upkeep) : Prop where
  coherent : upkeep.store.Coherent
  ordered : Ordered upkeep.tracker
  dated : ∀ journal ∈ upkeep.tracker, epoch < journal.title
  rows : upkeep.store.rows = Thought.firstOccurrences
    (thoughtsOf taxonomy bodies (datedUpTo upkeep.store.latest upkeep.tracker))

variable {taxonomy : Taxonomy} {bodies : Int → Text} {window : Nat} {upkeep : Upkeep}

/-- Without journals and thoughts the store is up to date. -/
theorem current_start (taxonomy : Taxonomy) (bodies : Int → Text) :
    Current taxonomy bodies start where
  coherent := Memory.coherent_empty
  ordered := List.Pairwise.nil
  dated _ member := absurd member List.not_mem_nil
  rows := rfl

/-- A title after the epoch and after the whole tracker is after the latest row. -/
theorem Current.latest_lt (current : Current taxonomy bodies upkeep) {title : Text}
    (afterEpoch : epoch < title) (last : ∀ earlier ∈ upkeep.tracker, earlier.title < title) :
    upkeep.store.latest < title := by
  have rows : upkeep.store.rows = Memory.empty.rows ++ Thought.additions Memory.empty.rows
      (thoughtsOf taxonomy bodies (datedUpTo upkeep.store.latest upkeep.tracker)) := by
    rw [current.rows]
    exact (Thought.additions_empty _).symm
  exact latest_lt_title rows afterEpoch fun earlier member => last earlier (mem_datedUpTo.mp member).1

/-- A journal that is added does not count as read, since it is titled after the latest date; so the
store stays current. -/
theorem Current.publish (current : Current taxonomy bodies upkeep) {journal : Journal}
    (permitted : upkeep.Permits bodies window (.publish journal)) :
    Current taxonomy bodies (upkeep.step taxonomy (.publish journal)) := by
  obtain ⟨afterEpoch, last⟩ := permitted
  have unread : upkeep.store.latest < journal.title := current.latest_lt afterEpoch last
  have alone : datedUpTo upkeep.store.latest [journal] = [] := by
    simp only [datedUpTo, List.filter_cons, unread, not_true_eq_false, decide_false,
      Bool.false_eq_true, ↓reduceIte, List.filter_nil]
  refine ⟨current.coherent, current.ordered.concat last, ?_, ?_⟩
  · intro other member
    rcases List.mem_append.mp member with earlier | new
    · exact current.dated other earlier
    · rw [List.mem_singleton] at new
      exact new ▸ afterEpoch
  · have read : datedUpTo upkeep.store.latest (upkeep.tracker ++ [journal]) =
        datedUpTo upkeep.store.latest upkeep.tracker := by
      unfold datedUpTo at alone ⊢
      rw [List.filter_append, alone, List.append_nil]
    change upkeep.store.rows = Thought.firstOccurrences
      (thoughtsOf taxonomy bodies (datedUpTo upkeep.store.latest (upkeep.tracker ++ [journal])))
    rw [read]
    exact current.rows

/-- A permitted sync leaves the store with the first occurrences in the whole tracker. -/
theorem Current.rows_sync (current : Current taxonomy bodies upkeep) {source : Source}
    (permitted : upkeep.Permits bodies window (.sync source)) :
    (upkeep.step taxonomy (.sync source)).store.rows =
      Thought.firstOccurrences (thoughtsOf taxonomy bodies upkeep.tracker) := by
  obtain ⟨fits, listing, listed, served⟩ := permitted
  have delta := selectDelta_window current.ordered fits listed
  calc (run source taxonomy .incremental upkeep.store).store.rows
      = upkeep.store.rows ++ Thought.additions upkeep.store.rows
          (thoughtsOf taxonomy bodies (newerThan upkeep.store.latest upkeep.tracker)) := by
        rw [rows_run_incremental served taxonomy current.coherent, delta]
    _ = Thought.firstOccurrences
          (thoughtsOf taxonomy bodies (datedUpTo upkeep.store.latest upkeep.tracker) ++
            thoughtsOf taxonomy bodies (newerThan upkeep.store.latest upkeep.tracker)) := by
        rw [Thought.firstOccurrences_append, ← current.rows]
    _ = Thought.firstOccurrences (thoughtsOf taxonomy bodies upkeep.tracker) := by
        rw [← thoughtsOf_append, current.ordered.cut]

/-- Journals titled after the latest row of a store that holds the first occurrences of the whole
tracker have added nothing to it. -/
theorem rows_eq_datedUpTo (ordered : Ordered upkeep.tracker)
    (complete : upkeep.store.rows =
      Thought.firstOccurrences (thoughtsOf taxonomy bodies upkeep.tracker)) :
    upkeep.store.rows = Thought.firstOccurrences
      (thoughtsOf taxonomy bodies (datedUpTo upkeep.store.latest upkeep.tracker)) := by
  have appended : upkeep.store.rows =
      [] ++ Thought.additions [] (thoughtsOf taxonomy bodies upkeep.tracker) := by
    rw [complete]
    exact (Thought.additions_empty _).symm
  rw [← Thought.additions_empty, additions_datedUpTo ordered appended, Thought.additions_empty,
    complete]

/-- A sync whose window reaches back to the latest date leaves the store current. -/
theorem Current.sync (current : Current taxonomy bodies upkeep) {source : Source}
    (permitted : upkeep.Permits bodies window (.sync source)) :
    Current taxonomy bodies (upkeep.step taxonomy (.sync source)) := by
  have complete := current.rows_sync permitted
  obtain ⟨_, listing, _, served⟩ := permitted
  exact ⟨coherent_run_incremental served taxonomy current.coherent, current.ordered, current.dated,
    rows_eq_datedUpTo current.ordered complete⟩

/-- Permitted events keep the store current. -/
theorem Current.step (current : Current taxonomy bodies upkeep) {event : Event}
    (permitted : upkeep.Permits bodies window event) :
    Current taxonomy bodies (upkeep.step taxonomy event) := by
  cases event with
  | publish journal => exact current.publish permitted
  | sync source => exact current.sync permitted

/-- Where an event of a regular history happens, the store is current and the event permitted. -/
theorem Current.at_event (current : Current taxonomy bodies upkeep) {before later : List Event}
    {event : Event} (regular : upkeep.Regular taxonomy bodies window (before ++ event :: later)) :
    Current taxonomy bodies (upkeep.after taxonomy before) ∧
      (upkeep.after taxonomy before).Permits bodies window event := by
  induction before generalizing upkeep with
  | nil => exact ⟨current, regular.1⟩
  | cons first rest ih => exact ih (current.step regular.1) regular.2

/-- **No journal is missed.** After every sync of a regular history the rows are the first
occurrences among the thoughts of all journals in the tracker so far, in the order of the tracker. -/
theorem rows_after_sync (taxonomy : Taxonomy) (bodies : Int → Text) (window : Nat)
    (before later : List Event) (source : Source)
    (regular : start.Regular taxonomy bodies window (before ++ .sync source :: later)) :
    let now := start.after taxonomy (before ++ [.sync source])
    now.store.rows = Thought.firstOccurrences (thoughtsOf taxonomy bodies now.tracker) := by
  obtain ⟨current, permitted⟩ := (current_start taxonomy bodies).at_event regular
  have last : start.after taxonomy (before ++ [.sync source]) =
      (start.after taxonomy before).step taxonomy (.sync source) := by
    unfold after
    rw [List.foldl_append]
    rfl
  simp only [last]
  exact current.rows_sync permitted

/-- The second of three journals repeats the first one, so the last sync reads it again. -/
theorem rows_after_sync_with_repeated_journal :
    let listing : List Journal :=
      [⟨1, "2026-03-01".toList⟩, ⟨2, "2026-03-02".toList⟩, ⟨3, "2026-03-03".toList⟩]
    let table := [(1, "## Area\n- a\n- b".toList), (2, "## Area\n- b".toList),
      (3, "## Area\n- a\n- c".toList)]
    let history : List Event :=
      [.publish ⟨1, "2026-03-01".toList⟩, .publish ⟨2, "2026-03-02".toList⟩,
        .sync (Source.ofTable (listing.take 2).reverse table), .publish ⟨3, "2026-03-03".toList⟩]
    let source := Source.ofTable (listing.drop 1).reverse table
    let now := start.after ⟨Dictionary.empty⟩ (history ++ [.sync source])
    now.store.rows.map Thought.content = [['a'], ['b'], ['c']] ∧
      now.store.rows = Thought.firstOccurrences
        (thoughtsOf ⟨Dictionary.empty⟩ (fun id => (table.lookup id).getD []) now.tracker) := by
  intro listing table history source now
  refine ⟨by decide +kernel, ?_⟩
  refine rows_after_sync ⟨Dictionary.empty⟩ _ 2 history [] source ⟨?_, ?_, ?_, ?_, ?_, trivial⟩
  · exact ⟨by decide +kernel, by decide +kernel⟩
  · exact ⟨by decide +kernel, by decide +kernel⟩
  · exact ⟨by decide +kernel, _, List.reverse_perm _, serves_ofTable (by decide)⟩
  · exact ⟨by decide +kernel, by decide +kernel⟩
  · exact ⟨by decide +kernel, _, List.reverse_perm _, serves_ofTable (by decide)⟩

end Upkeep

end ThoughtJournal.Sync
