import Mathlib.Data.List.Perm.Subperm
import ThoughtJournal.Proofs.Sync.Rescan
import ThoughtJournal.Proofs.Sync.Selected

/-! # Repeating a full sync with a limit

A full sync does not look at what is stored, so it cannot tell which journals an earlier one has read:
with a limit it always reads the journals with the earliest titles. Every repetition reads the same
ones again and stores nothing that the first one has not stored (`Sync.store_of_mem_repeatRun`).
Hence repeating it reads the whole listing exactly if the limit is not smaller than the listing
(`Sync.repeated_rescan_covers_iff`), and then one run is enough.
-/

namespace ThoughtJournal.Sync

/-- Read at most so many of the listed journals, the earliest ones, and write them. -/
def Options.rescanUpTo (limit : Nat) : Options := ⟨true, false, some limit⟩

section

variable {σ : Type} [ThoughtStore σ]

/-- The runs of a sync that is repeated, each of them with the store that the one before it left. -/
def repeatRun (source : Source) (taxonomy : Taxonomy) (options : Options) :
    Nat → σ → List (Run σ)
  | 0, _ => []
  | rounds + 1, store =>
      let first := run source taxonomy options store
      first :: repeatRun source taxonomy options rounds first.store

variable {source : Source} {taxonomy : Taxonomy} {options : Options}

/-- Every round has its run. -/
theorem length_repeatRun (source : Source) (taxonomy : Taxonomy) (options : Options)
    (rounds : Nat) (store : σ) :
    (repeatRun source taxonomy options rounds store).length = rounds := by
  induction rounds generalizing store with
  | zero => rfl
  | succ rounds ih => exact congrArg Nat.succ (ih _)

/-- Every repetition is a run on the store that it finds. -/
theorem exists_run_of_mem_repeatRun {rounds : Nat} {store : σ} {ending : Run σ}
    (member : ending ∈ repeatRun source taxonomy options rounds store) :
    ∃ before, ending = run source taxonomy options before := by
  induction rounds generalizing store with
  | zero => cases member
  | succ rounds ih =>
      rcases List.mem_cons.mp member with first | later
      · exact ⟨store, first⟩
      · exact ih later

/-- Every repetition of a full sync reads what the first one reads. -/
theorem fetched_of_mem_repeatRun {listing : List Journal} (full : options.full = true)
    (listed : source.index = .ok listing) {rounds : Nat} {store : σ} {ending : Run σ}
    (member : ending ∈ repeatRun source taxonomy options rounds store) :
    (∃ report, ending.outcome = .ok report) ∧
      ending.fetched = (selection options epoch listing).map Journal.id := by
  obtain ⟨before, rfl⟩ := exists_run_of_mem_repeatRun member
  obtain ⟨fetched, report, reported, _⟩ := run_of_full full listed taxonomy before
  exact ⟨⟨report, reported⟩, fetched⟩

end

section

variable {source : Source} {taxonomy : Taxonomy} {listing : List Journal} {bodies : Int → Text}
  {options : Options}

theorem startingDate_of_full (full : options.full = true) (store : Memory) :
    startingDate options store = epoch := by
  unfold startingDate
  rw [if_pos full]

/-- A full run leaves a store in which all that it selects is taken. -/
theorem taken_run_full (served : source.Serves listing bodies) (taxonomy : Taxonomy)
    (full : options.full = true) (writing : options.dryRun = false) {store : Memory}
    (coherent : store.Coherent) :
    ∀ thought ∈ thoughtsOf taxonomy bodies (selection options epoch listing),
      thought.checksum ∈ (run source taxonomy options store).store.checksums := by
  intro thought member
  have next := coherent_run_served served taxonomy writing coherent
  rw [next.indexed, rows_run_served served taxonomy writing coherent,
    Thought.mem_checksums_append_additions, startingDate_of_full full]
  exact Or.inr (List.mem_map_of_mem member)

/-- A full sync of which all is taken changes nothing, however often it is repeated. -/
theorem store_of_mem_repeatRun_of_taken (served : source.Serves listing bodies)
    (full : options.full = true) (writing : options.dryRun = false) {store : Memory}
    (taken : ∀ thought ∈ thoughtsOf taxonomy bodies (selection options epoch listing),
      thought.checksum ∈ store.checksums) {rounds : Nat} {ending : Run Memory}
    (member : ending ∈ repeatRun source taxonomy options rounds store) : ending.store = store := by
  have unchanged : (run source taxonomy options store).store = store := by
    apply store_run_of_taken served taxonomy writing
    rwa [startingDate_of_full full]
  induction rounds with
  | zero => cases member
  | succ rounds ih =>
      rcases List.mem_cons.mp member with first | later
      · exact first ▸ unchanged
      · rw [unchanged] at later
        exact ih later

/-- **Repetitions of a full sync store nothing.** Each of them ends with the store that the first one
left. -/
theorem store_of_mem_repeatRun (served : source.Serves listing bodies)
    (full : options.full = true) (writing : options.dryRun = false) {store : Memory}
    (coherent : store.Coherent) {rounds : Nat} {ending : Run Memory}
    (member : ending ∈ repeatRun source taxonomy options rounds store) :
    ending.store = (run source taxonomy options store).store := by
  cases rounds with
  | zero => cases member
  | succ rounds =>
      rcases List.mem_cons.mp member with first | later
      · rw [first]
      · exact store_of_mem_repeatRun_of_taken served full writing
          (taken_run_full served taxonomy full writing coherent) later

end

/-- Runs that all ask for the same bodies ask for no others together, as far as there is a run. -/
theorem exists_fetched_iff {σ : Type} {runs : List (Run σ)} {ids : List Int} {id : Int}
    (read : ∀ ending ∈ runs, ending.fetched = ids) (filled : id ∈ ids → 0 < runs.length) :
    (∃ ending ∈ runs, id ∈ ending.fetched) ↔ id ∈ ids := by
  constructor
  · rintro ⟨ending, member, fetched⟩
    rwa [read ending member] at fetched
  · intro asked
    obtain ⟨ending, member⟩ := List.exists_mem_of_length_pos (filled asked)
    exact ⟨ending, member, (read ending member).symm ▸ asked⟩

theorem portions_pos {length limit : Nat} (filled : 0 < length) (positive : 0 < limit) :
    0 < (length + limit - 1) / limit :=
  Nat.div_pos (by omega) positive

/-- The first entries of a list without repetitions are all its entries only if they are as many. -/
theorem forall_mem_take_iff {α : Type} {entries sorted : List α} (perm : sorted.Perm entries)
    (distinct : entries.Nodup) {limit : Nat} :
    (∀ entry ∈ entries, entry ∈ sorted.take limit) ↔ entries.length ≤ limit := by
  constructor
  · intro all
    calc entries.length
        ≤ (sorted.take limit).length := (List.subperm_of_subset distinct all).length_le
      _ ≤ limit := List.length_take_le limit sorted
  · intro enough entry member
    rw [List.take_of_length_le (perm.length_eq ▸ enough)]
    exact perm.mem_iff.mpr member

/-- **What repeating a full sync with a limit reads.** Every run asks for the bodies of the same
journals, the first ones by title. So these are all listed journals, and if no number is listed twice,
as many runs as there are portions of the listing have asked for every body, exactly if the listing is
no longer than the limit. A store in memory stays as the first run left it. -/
theorem repeated_rescan_covers_iff {σ : Type} [ThoughtStore σ] {source : Source}
    {listing : List Journal} {bodies : Int → Text} (served : source.Serves listing bodies)
    (distinct : (listing.map Journal.title).Nodup)
    (dated : ∀ journal ∈ listing, epoch < journal.title) (taxonomy : Taxonomy) (limit : Nat)
    (store : σ) :
    ∃ sorted : List Journal, sorted.Perm listing ∧ Journal.Ascending sorted ∧
      ((∀ journal ∈ listing, journal ∈ sorted.take limit) ↔ listing.length ≤ limit) ∧
      ∀ rounds,
        let runs := repeatRun source taxonomy (.rescanUpTo limit) rounds store
        runs.length = rounds ∧
        (∀ ending ∈ runs, (∃ report, ending.outcome = .ok report) ∧
          ending.fetched = (sorted.take limit).map Journal.id) ∧
        ((listing.map Journal.id).Nodup → (listing.length + limit - 1) / limit ≤ rounds →
          ((∀ journal ∈ listing, ∃ ending ∈ runs, journal.id ∈ ending.fetched) ↔
            listing.length ≤ limit)) ∧
        ∀ memory : Memory, memory.Coherent →
          ∀ ending ∈ repeatRun source taxonomy (.rescanUpTo limit) rounds memory,
            ending.store = (run source taxonomy (.rescanUpTo limit) memory).store := by
  let sorted := Journal.selectDelta epoch listing
  have perm : sorted.Perm listing := selection_rescan_perm dated
  refine ⟨sorted, perm, Journal.sortByTitle_ascending _,
    forall_mem_take_iff perm (List.Nodup.of_map _ distinct), fun rounds => ?_⟩
  intro runs
  have read : ∀ ending ∈ runs, (∃ report, ending.outcome = .ok report) ∧
      ending.fetched = (sorted.take limit).map Journal.id :=
    fun ending member => fetched_of_mem_repeatRun rfl served.index member
  have count : runs.length = rounds := length_repeatRun source taxonomy _ rounds store
  refine ⟨count, read, fun numbered enough => ?_, fun memory coherent ending member =>
    store_of_mem_repeatRun served rfl rfl coherent member⟩
  rw [← List.length_map Journal.id, ← forall_mem_take_iff (perm.map Journal.id) numbered,
    ← List.map_take, List.forall_mem_map]
  refine forall₂_congr fun journal listed => ?_
  apply exists_fetched_iff fun ending member => (read ending member).2
  intro first
  have positive : 0 < limit := by
    rcases Nat.eq_zero_or_pos limit with rfl | positive
    · cases first
    · exact positive
  calc 0 < (listing.length + limit - 1) / limit :=
        portions_pos (List.length_pos_of_mem listed) positive
    _ ≤ rounds := enough
    _ = runs.length := count.symm

/-- Three journals that are read by twos, from a store that holds a thought of the first one. Two runs
leave the last journal out. -/
theorem repeated_rescan_of_three_by_twos :
    let listing : List Journal := [⟨3, "2026-02-03".toList⟩, ⟨2, "2026-02-02".toList⟩,
      ⟨1, "2026-02-01".toList⟩]
    let table := [(1, "## Area\n- a\n- b".toList), (2, "## Area\n- c".toList),
      (3, "## Area\n- d".toList)]
    let source := Source.ofTable listing table
    let store := (Memory.empty.insert (Thought.compose "2026-03-01".toList ['b'] .area [])).2
    let runs := repeatRun source ⟨Dictionary.empty⟩ (.rescanUpTo 2) 2 store
    source.Serves listing (fun id => (table.lookup id).getD []) ∧
      (listing.map Journal.title).Nodup ∧ (∀ journal ∈ listing, epoch < journal.title) ∧
      runs.map Run.fetched = [[1, 2], [1, 2]] ∧
      ¬ ∀ journal ∈ listing, ∃ ending ∈ runs, journal.id ∈ ending.fetched := by
  intro listing table source store runs
  have served : source.Serves listing fun id => (table.lookup id).getD [] :=
    serves_ofTable (by decide)
  have distinct : (listing.map Journal.title).Nodup := by decide
  have dated : ∀ journal ∈ listing, epoch < journal.title := by decide +kernel
  obtain ⟨sorted, _, _, _, repeated⟩ :=
    repeated_rescan_covers_iff served distinct dated ⟨Dictionary.empty⟩ 2 store
  obtain ⟨_, _, covers, _⟩ := repeated 2
  refine ⟨served, distinct, dated, by decide +kernel, fun all => ?_⟩
  exact absurd ((covers (by decide) (by decide)).mp all) (by decide)

/-- Two runs that read one journal each read the first of two journals twice. -/
theorem repeated_rescan_misses_second :
    let listing : List Journal := [⟨2, "2026-02-02".toList⟩, ⟨1, "2026-02-01".toList⟩]
    let table := [(1, "## Area\n- a".toList), (2, "## Area\n- b".toList)]
    let source := Source.ofTable listing table
    let runs := repeatRun source ⟨Dictionary.empty⟩ (.rescanUpTo 1) 2 Memory.empty
    source.Serves listing (fun id => (table.lookup id).getD []) ∧
      (listing.map Journal.title).Nodup ∧ (∀ journal ∈ listing, epoch < journal.title) ∧
      (listing.length + 1 - 1) / 1 = 2 ∧
      ¬ ∀ journal ∈ listing, ∃ ending ∈ runs, journal.id ∈ ending.fetched := by
  intro listing table source runs
  exact ⟨serves_ofTable (by decide), by decide, by decide +kernel, by decide, by decide +kernel⟩

end ThoughtJournal.Sync
