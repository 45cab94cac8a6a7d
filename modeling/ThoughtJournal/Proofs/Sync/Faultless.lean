import ThoughtJournal.Proofs.Sync.StoreEffect

/-! # Syncs in which nothing fails

A source that lists journals and serves all their bodies, and a store in memory that does not fail.
A sync between them that writes adds the thoughts of the journals that it selects
(`Sync.rows_run_served`). For an incremental sync without limit these are the journals titled after
the latest stored date, so afterwards the store holds the checksums that it held and those of their
thoughts (`Sync.mem_checksums_run_incremental`).
-/

namespace ThoughtJournal.Sync

/-- The source lists the journals, and every body that is asked for is the one given. -/
structure Source.Serves (source : Source) (listing : List Journal) (bodies : Int → Text) :
    Prop where
  index : source.index = .ok listing
  body : ∀ askedBefore, ∀ journal ∈ listing,
    source.body askedBefore journal.id = .ok (bodies journal.id)

/-- Read everything after the latest stored date and write it. -/
def Options.incremental : Options := ⟨false, false, none⟩

/-- The thoughts of journals with given bodies, in order. -/
def thoughtsOf (taxonomy : Taxonomy) (bodies : Int → Text) (journals : List Journal) :
    List Thought :=
  journals.flatMap fun journal => taxonomy.atomize journal.title (bodies journal.id)

theorem thoughtsOf_append (taxonomy : Taxonomy) (bodies : Int → Text)
    (first second : List Journal) :
    thoughtsOf taxonomy bodies (first ++ second) =
      thoughtsOf taxonomy bodies first ++ thoughtsOf taxonomy bodies second :=
  List.flatMap_append

/-- The checksums of the thoughts of journals are those of each journal. -/
theorem mem_checksums_thoughtsOf {taxonomy : Taxonomy} {bodies : Int → Text} {sum : Text}
    {journals : List Journal} :
    sum ∈ (thoughtsOf taxonomy bodies journals).map Thought.checksum ↔
      ∃ journal ∈ journals,
        sum ∈ (taxonomy.atomize journal.title (bodies journal.id)).map Thought.checksum := by
  unfold thoughtsOf
  rw [List.map_flatMap, List.mem_flatMap]

/-- A source that serves a listing serves every table of it. -/
theorem serves_ofTable {listing : List Journal} {table : List (Int × Text)}
    (complete : ∀ journal ∈ listing, (table.lookup journal.id).isSome = true) :
    (Source.ofTable listing table).Serves listing fun id => (table.lookup id).getD [] := by
  refine ⟨rfl, fun askedBefore journal member => ?_⟩
  obtain ⟨body, found⟩ := Option.isSome_iff_exists.mp (complete journal member)
  simp only [Source.ofTable, found, Option.getD_some]

/-- A source that serves all bodies offers the thoughts of all journals. -/
theorem offered_of_served {source : Source} {bodies : Int → Text} {journals : List Journal}
    (served : ∀ askedBefore, ∀ journal ∈ journals,
      source.body askedBefore journal.id = .ok (bodies journal.id))
    (taxonomy : Taxonomy) (askedBefore : Nat) :
    offered source taxonomy askedBefore journals = thoughtsOf taxonomy bodies journals := by
  induction journals generalizing askedBefore with
  | nil => rfl
  | cons journal rest ih =>
      rw [offered_cons_of_ok (served askedBefore journal List.mem_cons_self)]
      have restServed := ih (fun asked other member =>
        served asked other (List.mem_cons_of_mem journal member)) (askedBefore + 1)
      rw [restServed]
      rfl

/-- The selected journals are the listed ones titled after the watermark. -/
theorem mem_selectDelta {watermark : Text} {listing : List Journal} {journal : Journal} :
    journal ∈ Journal.selectDelta watermark listing ↔
      journal ∈ listing ∧ watermark < journal.title := by
  unfold Journal.selectDelta
  rw [(Journal.sortByTitle_perm _).mem_iff, List.mem_filter, Journal.isAfter, Text.before_iff]

/-- A limit cuts the selection off, the earliest journals stay. -/
theorem selection_prefix_selectDelta (options : Options) (watermark : Text)
    (listing : List Journal) :
    selection options watermark listing <+: Journal.selectDelta watermark listing := by
  unfold selection
  cases options.limit with
  | none => exact List.prefix_refl _
  | some limit => exact List.take_prefix limit _

/-- A store in memory never fails to tell the watermark. -/
theorem watermarkFor_memory (options : Options) (store : Memory) :
    watermarkFor options store = .ok (startingDate options store) := by
  unfold watermarkFor startingDate
  split <;> rfl

section

variable {source : Source} {listing : List Journal} {bodies : Int → Text}

/-- The selected journals offer their thoughts. -/
theorem offered_of_selected (served : source.Serves listing bodies) (options : Options)
    (watermark : Text) (taxonomy : Taxonomy) :
    offered source taxonomy 0 (selection options watermark listing) =
      thoughtsOf taxonomy bodies (selection options watermark listing) := by
  apply offered_of_served
  intro askedBefore journal member
  have newer := (selection_prefix_selectDelta options watermark listing).subset member
  exact served.body askedBefore journal (mem_selectDelta.mp newer).1

/-- The store is handed the thoughts of the selected journals. -/
theorem store_run_served (served : source.Serves listing bodies) (taxonomy : Taxonomy)
    {options : Options} (writing : options.dryRun = false) (store : Memory) :
    (run source taxonomy options store).store =
      (ThoughtStore.insertAll store
        (thoughtsOf taxonomy bodies
          (selection options (startingDate options store) listing))).2 := by
  rw [store_run (watermarkFor_memory options store) served.index writing,
    offered_of_selected served]

/-- A sync that extracts only what is stored leaves the store as it is. -/
theorem store_run_of_taken (served : source.Serves listing bodies) (taxonomy : Taxonomy)
    {options : Options} (writing : options.dryRun = false) {store : Memory}
    (taken : ∀ thought ∈ thoughtsOf taxonomy bodies
      (selection options (startingDate options store) listing),
      thought.checksum ∈ store.checksums) :
    (run source taxonomy options store).store = store := by
  rw [store_run_served served taxonomy writing, Memory.insertAll_of_taken taken]

/-- **The rows after a sync** that writes and in which nothing fails. -/
theorem rows_run_served (served : source.Serves listing bodies) (taxonomy : Taxonomy)
    {options : Options} (writing : options.dryRun = false) {store : Memory}
    (coherent : store.Coherent) :
    (run source taxonomy options store).store.rows =
      store.rows ++ Thought.additions store.rows
        (thoughtsOf taxonomy bodies
          (selection options (startingDate options store) listing)) := by
  rw [store_run_served served taxonomy writing, Memory.rows_insertAll coherent]

/-- A sync that writes keeps the index in step with the rows. -/
theorem coherent_run_served (served : source.Serves listing bodies) (taxonomy : Taxonomy)
    {options : Options} (writing : options.dryRun = false) {store : Memory}
    (coherent : store.Coherent) : (run source taxonomy options store).store.Coherent := by
  rw [store_run_served served taxonomy writing]
  exact coherent.insertAll _

theorem coherent_run_incremental (served : source.Serves listing bodies) (taxonomy : Taxonomy)
    {store : Memory} (coherent : store.Coherent) :
    (run source taxonomy .incremental store).store.Coherent :=
  coherent_run_served served taxonomy rfl coherent

/-- **The rows after an incremental sync** in which nothing fails. -/
theorem rows_run_incremental (served : source.Serves listing bodies) (taxonomy : Taxonomy)
    {store : Memory} (coherent : store.Coherent) :
    (run source taxonomy .incremental store).store.rows =
      store.rows ++ Thought.additions store.rows
        (thoughtsOf taxonomy bodies (Journal.selectDelta store.latest listing)) :=
  rows_run_served served taxonomy rfl coherent

/-- The store holds what it held and the thoughts of the journals titled after its latest date. -/
theorem mem_checksums_run_incremental (served : source.Serves listing bodies)
    (taxonomy : Taxonomy) {store : Memory} (coherent : store.Coherent) (sum : Text) :
    sum ∈ (run source taxonomy .incremental store).store.rows.map Thought.checksum ↔
      sum ∈ store.rows.map Thought.checksum ∨
        ∃ journal ∈ listing, store.latest < journal.title ∧
          sum ∈ (taxonomy.atomize journal.title (bodies journal.id)).map Thought.checksum := by
  rw [rows_run_incremental served taxonomy coherent, Thought.mem_checksums_append_additions,
    mem_checksums_thoughtsOf]
  simp only [mem_selectDelta, and_assoc]

end

end ThoughtJournal.Sync
