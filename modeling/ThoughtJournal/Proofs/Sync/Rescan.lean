import ThoughtJournal.Proofs.Sync.Counters
import ThoughtJournal.Proofs.Sync.Timeline

/-! # Reading everything again

A sync that considers every listed journal, whatever is stored, makes its store hold the thoughts of
the whole listing, and a second one over the same journals finds nothing to do
(`Sync.rescan_converges`). The first needs no assumption on how the store came about, and the second
none on the order in which the journals are listed.
-/

namespace ThoughtJournal.Sync

/-- Read every listed journal and write it. -/
def Options.rescan : Options := ⟨true, false, none⟩

section

variable {source : Source} {taxonomy : Taxonomy} {listing : List Journal} {bodies : Int → Text}

/-- The report of a sync that writes and in which nothing fails counts the thoughts of the selected
journals and what became of them. -/
theorem report_run_served (served : source.Serves listing bodies) (taxonomy : Taxonomy)
    {options : Options} (writing : options.dryRun = false) (store : Memory) :
    let thoughts := thoughtsOf taxonomy bodies
      (selection options (startingDate options store) listing)
    let outcomes := (ThoughtStore.insertAll store thoughts).1
    ∃ report, (run source taxonomy options store).outcome = .ok report ∧
      report.thoughtsExtracted = thoughts.length ∧
      report.thoughtsInserted = outcomes.countP wasInserted ∧
      report.thoughtsDuplicate = outcomes.countP wasDuplicate ∧
      report.thoughtsFailed = outcomes.countP hasFailed ∧
      report.stats = some (run source taxonomy options store).store.stats := by
  intro thoughts outcomes
  have counts := counts_finalProgress writing source taxonomy store (startingDate options store)
    listing
  rw [offered_of_selected served] at counts
  rw [run_of_listed (watermarkFor_memory options store) served.index]
  refine ⟨_, rfl, ?_, ?_, ?_, ?_, rfl⟩
  · exact counts.extracted.trans (Nat.zero_add _)
  · exact counts.inserted.trans (Nat.zero_add _)
  · exact counts.duplicate.trans (Nat.zero_add _)
  · exact counts.failed.trans (Nat.zero_add _)

/-- If all listed journals are titled after the epoch a rescan reads all of them. -/
theorem selection_rescan_perm (dated : ∀ journal ∈ listing, epoch < journal.title) :
    (selection .rescan epoch listing).Perm listing := by
  have all : listing.filter (Journal.isAfter epoch) = listing := by
    rw [List.filter_eq_self]
    intro journal member
    exact (Text.before_iff _ _).mpr (dated journal member)
  have sorted : (selection .rescan epoch listing).Perm (listing.filter (Journal.isAfter epoch)) :=
    Journal.sortByTitle_perm _
  rwa [all] at sorted

/-- Journals in another order have the same thoughts in another order. -/
theorem thoughtsOf_perm {first second : List Journal} (rearranged : first.Perm second) :
    (thoughtsOf taxonomy bodies first).Perm (thoughtsOf taxonomy bodies second) :=
  rearranged.flatMap_right _

/-- A rescan extracts the thoughts of all listed journals, if these are titled after the epoch. -/
theorem thoughtsOf_rescan_perm (dated : ∀ journal ∈ listing, epoch < journal.title) :
    (thoughtsOf taxonomy bodies (selection .rescan epoch listing)).Perm
      (thoughtsOf taxonomy bodies listing) :=
  thoughtsOf_perm (selection_rescan_perm dated)

/-- Thoughts whose checksums are stored are duplicates, all of them. -/
theorem countP_insertAll_of_taken {store : Memory} {thoughts : List Thought}
    (taken : ∀ thought ∈ thoughts, thought.checksum ∈ store.checksums) :
    let outcomes := (ThoughtStore.insertAll store thoughts).1
    outcomes.countP wasInserted = 0 ∧ outcomes.countP wasDuplicate = thoughts.length ∧
      outcomes.countP hasFailed = 0 := by
  rw [Memory.insertAll_of_taken taken]
  simp only [List.countP_replicate, wasInserted, wasDuplicate, hasFailed, Bool.false_eq_true,
    ↓reduceIte, and_self]

/-- The stored checksums after reading everything: those from before and those of all journals. -/
theorem mem_checksums_run_rescan (served : source.Serves listing bodies)
    (dated : ∀ journal ∈ listing, epoch < journal.title) (taxonomy : Taxonomy) {store : Memory}
    (coherent : store.Coherent) (sum : Text) :
    sum ∈ (run source taxonomy .rescan store).store.rows.map Thought.checksum ↔
      sum ∈ store.rows.map Thought.checksum ∨
        sum ∈ (thoughtsOf taxonomy bodies listing).map Thought.checksum := by
  rw [rows_run_served served taxonomy rfl coherent, Thought.mem_checksums_append_additions]
  exact or_congr_right ((thoughtsOf_rescan_perm dated).map Thought.checksum).mem_iff

/-- Reading everything again when all of it is stored. -/
theorem run_rescan_of_taken (served : source.Serves listing bodies)
    (dated : ∀ journal ∈ listing, epoch < journal.title) {store : Memory}
    (taken : ∀ thought ∈ thoughtsOf taxonomy bodies listing,
      thought.checksum ∈ store.checksums) :
    (run source taxonomy .rescan store).store = store ∧
    ∃ report, (run source taxonomy .rescan store).outcome = .ok report ∧
      report.thoughtsInserted = 0 ∧ report.thoughtsFailed = 0 ∧
      report.thoughtsDuplicate = report.thoughtsExtracted ∧
      report.thoughtsExtracted = (thoughtsOf taxonomy bodies listing).length ∧
      report.stats = some store.stats := by
  have writing : Options.rescan.dryRun = false := rfl
  have handed : ∀ thought ∈ thoughtsOf taxonomy bodies (selection .rescan epoch listing),
      thought.checksum ∈ store.checksums :=
    fun thought member => taken thought ((thoughtsOf_rescan_perm dated).mem_iff.mp member)
  have unchanged : (run source taxonomy .rescan store).store = store :=
    store_run_of_taken served taxonomy writing handed
  obtain ⟨report, reported, extracted, inserted, duplicate, failed, stats⟩ :=
    report_run_served served taxonomy writing store
  obtain ⟨none, all, noFailure⟩ := countP_insertAll_of_taken handed
  rw [unchanged] at stats
  refine ⟨unchanged, report, reported, inserted.trans none, failed.trans noFailure, ?_, ?_, stats⟩
  · exact (duplicate.trans all).trans extracted.symm
  · exact extracted.trans (thoughtsOf_rescan_perm dated).length_eq

/-- **Convergence.** A sync that reads everything keeps the rows of its store in place and makes the
stored checksums those from before and those of all listed journals. A second one, over the same
journals in any order, counts every thought as a duplicate and changes nothing. -/
theorem rescan_converges {again : Source} {relisting : List Journal}
    (served : source.Serves listing bodies) (servedAgain : again.Serves relisting bodies)
    (rearranged : relisting.Perm listing) (dated : ∀ journal ∈ listing, epoch < journal.title)
    (taxonomy : Taxonomy) {store : Memory} (coherent : store.Coherent) :
    let first := run source taxonomy .rescan store
    let second := run again taxonomy .rescan first.store
    (∀ sum, sum ∈ first.store.rows.map Thought.checksum ↔
      sum ∈ store.rows.map Thought.checksum ∨ ∃ journal ∈ listing,
        sum ∈ (taxonomy.atomize journal.title (bodies journal.id)).map Thought.checksum) ∧
    store.rows <+: first.store.rows ∧
    second.store = first.store ∧
    ∃ report repeated, first.outcome = .ok report ∧ second.outcome = .ok repeated ∧
      repeated.thoughtsInserted = 0 ∧ repeated.thoughtsFailed = 0 ∧
      repeated.thoughtsDuplicate = repeated.thoughtsExtracted ∧
      repeated.thoughtsExtracted = (thoughtsOf taxonomy bodies listing).length ∧
      report.stats = some first.store.stats ∧ repeated.stats = report.stats := by
  intro first second
  have sums := mem_checksums_run_rescan served dated taxonomy coherent
  have coherentFirst : first.store.Coherent := coherent_run_served served taxonomy rfl coherent
  have sameThoughts : (thoughtsOf taxonomy bodies relisting).Perm
      (thoughtsOf taxonomy bodies listing) := thoughtsOf_perm rearranged
  have datedAgain : ∀ journal ∈ relisting, epoch < journal.title :=
    fun journal member => dated journal (rearranged.mem_iff.mp member)
  -- Whatever the second run extracts, the first one has stored.
  have taken : ∀ thought ∈ thoughtsOf taxonomy bodies relisting,
      thought.checksum ∈ first.store.checksums := by
    intro thought member
    have listed := sameThoughts.mem_iff.mp member
    have extracted := List.mem_map_of_mem (f := Thought.checksum) listed
    exact (coherentFirst.indexed _).mpr ((sums _).mpr (Or.inr extracted))
  have writing : Options.rescan.dryRun = false := rfl
  obtain ⟨report, reported, _, _, _, _, stats⟩ := report_run_served served taxonomy writing store
  obtain ⟨unchanged, repeated, reportedAgain, inserted, failed, duplicate, extracted, statsAgain⟩ :=
    run_rescan_of_taken servedAgain datedAgain taken
  refine ⟨fun sum => (sums sum).trans (or_congr_right mem_checksums_thoughtsOf), ?_, unchanged,
    report, repeated, reported, reportedAgain, inserted, failed, duplicate,
    extracted.trans sameThoughts.length_eq, stats, statsAgain.trans stats.symm⟩
  rw [rows_run_served served taxonomy rfl coherent]
  exact List.prefix_append _ _

end

/-- A store with a row, two journals with the same title that repeat each other and the row, and the
same journals in another order. -/
theorem rescan_converges_with_repetitions :
    let listing : List Journal := [⟨2, "2026-02-02".toList⟩, ⟨1, "2026-02-02".toList⟩]
    let table := [(1, "## Area\n- a\n- b\n- a".toList), (2, "## Project\n- b\n- c".toList)]
    let bodies := fun id => (table.lookup id).getD []
    let source := Source.ofTable listing table
    let again := Source.ofTable listing.reverse table
    let store := (Memory.empty.insert (Thought.compose ['9', '9'] ['c'] .archive [])).2
    let first := run source ⟨Dictionary.empty⟩ .rescan store
    let second := run again ⟨Dictionary.empty⟩ .rescan first.store
    first.store.rows.map Thought.content = [['c'], ['b'], ['a']] ∧
      store.rows <+: first.store.rows ∧
      second.store = first.store ∧
      ∃ report repeated, first.outcome = .ok report ∧ second.outcome = .ok repeated ∧
        repeated.thoughtsInserted = 0 ∧ repeated.thoughtsFailed = 0 ∧
        repeated.thoughtsDuplicate = repeated.thoughtsExtracted ∧
        repeated.thoughtsExtracted = (thoughtsOf ⟨Dictionary.empty⟩ bodies listing).length ∧
        report.stats = some first.store.stats ∧ repeated.stats = report.stats := by
  intro listing table bodies source again store first second
  have served : source.Serves listing bodies := serves_ofTable (by decide)
  have servedAgain : again.Serves listing.reverse bodies := serves_ofTable (by decide)
  have dated : ∀ journal ∈ listing, epoch < journal.title := by decide +kernel
  have coherent : store.Coherent := Memory.coherent_empty.insert _
  exact ⟨by decide +kernel, (rescan_converges served servedAgain (List.reverse_perm listing) dated
    ⟨Dictionary.empty⟩ coherent).2⟩

end ThoughtJournal.Sync
