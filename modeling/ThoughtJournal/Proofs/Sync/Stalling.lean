import ThoughtJournal.Proofs.Sync.Batches

/-! # Repeating a sync with a limit

A sync with a limit reads the first pending journals, but it moves the latest date of its store
only if one of them has a thought that is not stored (`Sync.newerThan_syncBatch_lt_iff`). If none
has, the store stays as it is (`Sync.syncBatch_of_nothing_new`), and every repetition reads the same
journals. So repeating it reads all pending journals exactly when it never meets a full batch of journals that
bring nothing new with another journal after them (`Sync.repeated_batches_iff`). The first of two
journals without a thought is enough to keep batches of one from ever reading the other one
(`Sync.empty_journal_stalls`).
-/

namespace ThoughtJournal.Sync

/-- Some thought of the journals has a checksum that is not among the given ones. -/
def BringsNew (taxonomy : Taxonomy) (bodies : Int → Text) (sums : List Text)
    (journals : List Journal) : Prop :=
  ∃ thought ∈ thoughtsOf taxonomy bodies journals, thought.checksum ∉ sums

section

variable {source : Source} {taxonomy : Taxonomy} {listing : List Journal} {bodies : Int → Text}
variable {base store : Memory}

/-- Journals bring nothing new if and only if they add nothing to the rows. -/
theorem not_bringsNew_iff {rows : List Thought} {journals : List Journal} :
    ¬ BringsNew taxonomy bodies (rows.map Thought.checksum) journals ↔
      Thought.additions rows (thoughtsOf taxonomy bodies journals) = [] := by
  rw [Thought.additions_eq_nil_iff]
  unfold BringsNew
  simp only [not_exists, not_and, not_not]

/-- Journals bring something new after the additions of some thoughts if and only if they do after
all of these thoughts. -/
theorem bringsNew_append_additions {rows thoughts : List Thought} {journals : List Journal} :
    BringsNew taxonomy bodies ((rows ++ Thought.additions rows thoughts).map Thought.checksum)
        journals ↔
      BringsNew taxonomy bodies ((rows ++ thoughts).map Thought.checksum) journals := by
  have same : ∀ sum, sum ∈ (rows ++ Thought.additions rows thoughts).map Thought.checksum ↔
      sum ∈ (rows ++ thoughts).map Thought.checksum := by
    intro sum
    rw [Thought.mem_checksums_append_additions, List.map_append, List.mem_append]
  unfold BringsNew
  simp only [same]

/-- A sync whose journals bring nothing new leaves the store as it is. -/
theorem syncBatch_of_nothing_new (served : source.Serves listing bodies)
    (coherent : store.Coherent) {limit : Option Nat}
    (nothing : ¬ BringsNew taxonomy bodies (store.rows.map Thought.checksum)
      (selection (.limited limit) store.latest listing)) :
    syncBatch source taxonomy store limit = store := by
  have stored := Thought.additions_eq_nil_iff.mp (not_bringsNew_iff.mp nothing)
  apply store_run_of_taken served taxonomy rfl
  intro thought member
  exact (coherent.indexed _).mpr (stored thought member)

/-- A batch that brings something new moves the latest date to one of its titles or beyond. -/
theorem exists_title_reached (served : source.Serves listing bodies) (coherent : store.Coherent)
    {limit : Option Nat}
    (something : BringsNew taxonomy bodies (store.rows.map Thought.checksum)
      (selection (.limited limit) store.latest listing)) :
    ∃ journal ∈ selection (.limited limit) store.latest listing,
      ¬ (syncBatch source taxonomy store limit).latest < journal.title := by
  have rows : (syncBatch source taxonomy store limit).rows = store.rows ++
      Thought.additions store.rows (thoughtsOf taxonomy bodies
        (selection (.limited limit) store.latest listing)) :=
    rows_run_served served taxonomy rfl coherent
  have added : Thought.additions store.rows (thoughtsOf taxonomy bodies
      (selection (.limited limit) store.latest listing)) ≠ [] :=
    fun none => not_bringsNew_iff.mpr none something
  obtain ⟨row, member⟩ := List.exists_mem_of_ne_nil _ added
  obtain ⟨journal, selected, dated⟩ :=
    exists_title_of_mem_thoughtsOf (Thought.mem_of_mem_additions member)
  refine ⟨journal, selected, ?_⟩
  have stored : row ∈ (syncBatch source taxonomy store limit).rows := by
    rw [rows]
    exact List.mem_append_right _ member
  exact dated ▸ Memory.not_latest_lt stored

/-- **When a batch makes progress.** A batch leaves fewer journals newer than the store exactly when
one of its journals has a thought that is not stored. -/
theorem newerThan_syncBatch_lt_iff (served : source.Serves listing bodies)
    (coherent : store.Coherent) (limit : Option Nat) :
    (newerThan (syncBatch source taxonomy store limit).latest listing).length <
        (newerThan store.latest listing).length ↔
      BringsNew taxonomy bodies (store.rows.map Thought.checksum)
        (selection (.limited limit) store.latest listing) := by
  constructor
  · intro fewer
    by_contra nothing
    rw [syncBatch_of_nothing_new served coherent nothing] at fewer
    exact Nat.lt_irrefl _ fewer
  · intro something
    obtain ⟨journal, selected, reached⟩ := exists_title_reached served coherent something
    have pending := (selection_prefix_selectDelta _ _ _).subset selected
    obtain ⟨listed, newer⟩ := mem_selectDelta.mp pending
    have notBefore : ¬ (syncBatch source taxonomy store limit).latest < store.latest :=
      fun lower => reached (List.lt_trans lower newer)
    rw [← newerThan_newerThan notBefore]
    apply List.length_filter_lt_length_iff_exists.mpr
    refine ⟨journal, mem_newerThan.mpr ⟨listed, newer⟩, ?_⟩
    intro later
    exact reached (of_decide_eq_true later)

/-! ## Repetitions -/

/-- The store after a number of syncs with the same limit. -/
def repeatBatch (source : Source) (taxonomy : Taxonomy) (store : Memory) (limit rounds : Nat) :
    Memory :=
  syncBatches source taxonomy store (List.replicate rounds (some limit))

/-- The journals that a sync with a limit reads. -/
def batch (store : Memory) (limit : Nat) (listing : List Journal) : List Journal :=
  selection (.limited (some limit)) store.latest listing

theorem repeatBatch_succ (limit rounds : Nat) :
    repeatBatch source taxonomy store limit (rounds + 1) =
      repeatBatch source taxonomy (syncBatch source taxonomy store (some limit)) limit rounds := rfl

/-- Journals bring something new to the store if they do to the rows at the start and the thoughts
of the journals that count as read. -/
theorem Continues.bringsNew_iff (continues : Continues taxonomy bodies listing base store)
    (journals : List Journal) :
    BringsNew taxonomy bodies (store.rows.map Thought.checksum) journals ↔
      BringsNew taxonomy bodies ((base.rows ++ thoughtsOf taxonomy bodies
        (datedUpTo store.latest (Journal.selectDelta base.latest listing))).map
          Thought.checksum) journals := by
  rw [continues.rows]
  exact bringsNew_append_additions

/-- Without a full batch that brings nothing new before another journal, every pending journal is
read in some round. -/
theorem exists_round (served : source.Serves listing bodies)
    (distinct : (listing.map Journal.title).Nodup) {limit : Nat}
    (fertile : ∀ before block rest,
      Journal.selectDelta base.latest listing = before ++ block ++ rest →
        block.length = limit → rest ≠ [] → BringsNew taxonomy bodies
          ((base.rows ++ thoughtsOf taxonomy bodies before).map Thought.checksum) block)
    (continues : Continues taxonomy bodies listing base store) {journal : Journal}
    (listed : journal ∈ listing) (newer : store.latest < journal.title) :
    ∃ rounds, journal ∈ batch (repeatBatch source taxonomy store limit rounds) limit listing := by
  -- Every round that does not read the journal leaves fewer journals newer than the store.
  induction remaining : (newerThan store.latest listing).length using Nat.strongRecOn
    generalizing store with
  | ind count ih =>
      by_cases now : journal ∈ batch store limit listing
      · exact ⟨0, now⟩
      · have pending : journal ∈ Journal.selectDelta store.latest listing :=
          mem_selectDelta.mpr ⟨listed, newer⟩
        have split : batch store limit listing ++
            (Journal.selectDelta store.latest listing).drop limit =
              Journal.selectDelta store.latest listing := List.take_append_drop limit _
        have unread : journal ∈ (Journal.selectDelta store.latest listing).drop limit := by
          rw [← split] at pending
          exact (List.mem_append.mp pending).resolve_left now
        -- A journal is left over, so it is the limit that ends the batch.
        have full : (batch store limit listing).length = limit := by
          have longer := List.length_pos_of_mem unread
          rw [List.length_drop] at longer
          have cut : (batch store limit listing).length =
              min limit (Journal.selectDelta store.latest listing).length := List.length_take
          omega
        have cut := continues.cut distinct
        rw [← split, ← List.append_assoc] at cut
        have something : BringsNew taxonomy bodies (store.rows.map Thought.checksum)
            (batch store limit listing) :=
          (continues.bringsNew_iff _).mpr
            (fertile _ _ _ cut.symm full (List.ne_nil_of_mem unread))
        have fewer :=
          (newerThan_syncBatch_lt_iff served continues.coherent (some limit)).mpr something
        have next := continues.after_batch served distinct (some limit)
        have stillNewer : (syncBatch source taxonomy store (some limit)).latest < journal.title :=
          latest_lt_of_unread distinct cut.symm (continues.rows_after_batch served (some limit))
            unread
        obtain ⟨rounds, read⟩ := ih _ (remaining ▸ fewer) next stillNewer rfl
        exact ⟨rounds + 1, read⟩

/-- A store that no later journal is titled up to reads, with one more batch, no further than a full
block of the journals after it. -/
theorem Continues.read_prefix (continues : Continues taxonomy bodies listing base store)
    (distinct : (listing.map Journal.title).Nodup) {before block rest : List Journal}
    (split : Journal.selectDelta base.latest listing = before ++ block ++ rest)
    (ahead : ∀ journal ∈ block ++ rest, store.latest < journal.title) :
    datedUpTo store.latest (Journal.selectDelta base.latest listing) ++
      batch store block.length listing <+: before ++ block := by
  have ordered : Ordered before := by
    have whole := ordered_selectDelta distinct base.latest
    rw [split, List.append_assoc] at whole
    exact whole.sublist (List.sublist_append_left _ _)
  -- The store selects the end of `before` and then the block, so a batch as long as the block ends
  -- no later than the block.
  have selected : batch store block.length listing =
      (newerThan store.latest before ++ block).take block.length := by
    have enough : block.length ≤ (newerThan store.latest before ++ block).length := by
      rw [List.length_append]
      exact Nat.le_add_left _ _
    rw [← List.take_append_of_le_length enough, List.append_assoc,
      ← newerThan_append_of_newer ahead, ← List.append_assoc, ← split,
      ← continues.selectDelta_eq distinct]
    rfl
  have cut := ordered.cut store.latest
  rw [split, List.append_assoc, datedUpTo_append_of_newer ahead, selected]
  nth_rewrite 3 [← cut]
  rw [List.append_assoc]
  exact (List.prefix_append_right_inj _).mpr (List.take_prefix _ _)

/-- If the next journals bring nothing new, a batch of so many leaves the latest date before their
titles. -/
theorem Continues.ahead_after_batch (continues : Continues taxonomy bodies listing base store)
    (served : source.Serves listing bodies) (distinct : (listing.map Journal.title).Nodup)
    {before block rest : List Journal}
    (split : Journal.selectDelta base.latest listing = before ++ block ++ rest)
    (barren : ¬ BringsNew taxonomy bodies
      ((base.rows ++ thoughtsOf taxonomy bodies before).map Thought.checksum) block)
    (ahead : ∀ journal ∈ block ++ rest, store.latest < journal.title) :
    ∀ journal ∈ block ++ rest,
      (syncBatch source taxonomy store (some block.length)).latest < journal.title := by
  -- The batch ends in the block, which adds nothing, so all new rows are those of `before`.
  have nothing : Thought.additions base.rows (thoughtsOf taxonomy bodies (before ++ block)) =
      Thought.additions base.rows (thoughtsOf taxonomy bodies before) := by
    have none : Thought.additions
        (base.rows ++ Thought.additions base.rows (thoughtsOf taxonomy bodies before))
        (thoughtsOf taxonomy bodies block) = [] := by
      apply not_bringsNew_iff.mp
      rw [bringsNew_append_additions]
      exact barren
    rw [thoughtsOf_append, Thought.additions_append, none, List.append_nil]
  obtain ⟨unread, reach⟩ := continues.read_prefix distinct split ahead
  rw [List.append_assoc] at split
  intro journal member
  have pending := listed_of_split split (List.mem_append_right before member)
  apply Memory.latest_lt_of_rows (continues.rows_after_batch served (some block.length)) pending.2
  intro row added
  have early : row ∈ Thought.additions base.rows (thoughtsOf taxonomy bodies before) := by
    rw [← nothing, ← reach, thoughtsOf_append]
    exact (Thought.additions_prefix_append _ _ _).subset added
  obtain ⟨earlier, present, dated⟩ :=
    exists_title_of_mem_thoughtsOf (Thought.mem_of_mem_additions early)
  exact dated ▸ title_lt_of_split distinct split present member

/-- A full block that brings nothing new keeps the journals after it from ever being read. -/
theorem not_mem_batch_of_barren (served : source.Serves listing bodies)
    (distinct : (listing.map Journal.title).Nodup) {before block rest : List Journal}
    (split : Journal.selectDelta base.latest listing = before ++ block ++ rest)
    (barren : ¬ BringsNew taxonomy bodies
      ((base.rows ++ thoughtsOf taxonomy bodies before).map Thought.checksum) block)
    (continues : Continues taxonomy bodies listing base store)
    (ahead : ∀ journal ∈ block ++ rest, store.latest < journal.title) {journal : Journal}
    (member : journal ∈ rest) (rounds : Nat) :
    journal ∉ batch (repeatBatch source taxonomy store block.length rounds) block.length
      listing := by
  -- What every round keeps is that the whole block is ahead of the store.
  induction rounds generalizing store with
  | zero =>
      intro read
      obtain ⟨unread, reach⟩ := continues.read_prefix distinct split ahead
      have earlier : journal ∈ before ++ block := by
        rw [← reach]
        exact List.mem_append_left _ (List.mem_append_right _ read)
      exact List.lt_irrefl journal.title (title_lt_of_split distinct split earlier member)
  | succ rounds ih =>
      rw [repeatBatch_succ]
      exact ih (continues.after_batch served distinct _)
        (continues.ahead_after_batch served distinct split barren ahead)

/-- When every pending journal is read in some round, every full block before another journal brings
something new. -/
theorem bringsNew_of_reached (served : source.Serves listing bodies)
    (distinct : (listing.map Journal.title).Nodup) (coherent : base.Coherent)
    {before block rest : List Journal}
    (reached : ∀ journal ∈ listing, base.latest < journal.title → ∃ rounds, journal ∈
      batch (repeatBatch source taxonomy base block.length rounds) block.length listing)
    (split : Journal.selectDelta base.latest listing = before ++ block ++ rest)
    (another : rest ≠ []) :
    BringsNew taxonomy bodies
      ((base.rows ++ thoughtsOf taxonomy bodies before).map Thought.checksum) block := by
  by_contra barren
  obtain ⟨journal, member⟩ := List.exists_mem_of_ne_nil rest another
  have pending : ∀ later ∈ block ++ rest, later ∈ listing ∧ base.latest < later.title :=
    fun later present => listed_of_split (split.trans (List.append_assoc before block rest))
      (List.mem_append_right before present)
  obtain ⟨listed, newer⟩ := pending journal (List.mem_append_right block member)
  obtain ⟨rounds, read⟩ := reached journal listed newer
  exact not_mem_batch_of_barren served distinct split barren
    (Continues.refl taxonomy bodies listing coherent)
    (fun later present => (pending later present).2) member rounds read

/-- **What repeating a sync with a limit achieves.** The sync leaves fewer journals newer than the
store exactly when one of the journals that it reads has a thought that is not stored, and otherwise
it leaves the store as it is. Repeating it reads every journal newer than the store exactly when, of
these journals in the order of their titles, no full batch with another journal after it is without
a thought that is neither stored nor among the thoughts of the journals before. -/
theorem repeated_batches_iff (served : source.Serves listing bodies)
    (distinct : (listing.map Journal.title).Nodup) (taxonomy : Taxonomy) {store : Memory}
    (coherent : store.Coherent) (limit : Nat) :
    let next := syncBatch source taxonomy store (some limit)
    let fresh := BringsNew taxonomy bodies (store.rows.map Thought.checksum)
      (batch store limit listing)
    ((newerThan next.latest listing).length < (newerThan store.latest listing).length ↔ fresh) ∧
    (¬ fresh → next = store) ∧
    ((∀ journal ∈ listing, store.latest < journal.title → ∃ rounds,
        journal ∈ batch (repeatBatch source taxonomy store limit rounds) limit listing) ↔
      ∀ before block rest,
        Journal.selectDelta store.latest listing = before ++ block ++ rest →
          block.length = limit → rest ≠ [] → BringsNew taxonomy bodies
            ((store.rows ++ thoughtsOf taxonomy bodies before).map Thought.checksum) block) := by
  intro next fresh
  refine ⟨newerThan_syncBatch_lt_iff served coherent _,
    syncBatch_of_nothing_new served coherent, ?_⟩
  constructor
  · rintro reached before block rest split rfl another
    exact bringsNew_of_reached served distinct coherent reached split another
  · intro fertile journal listed newer
    exact exists_round served distinct fertile (Continues.refl taxonomy bodies listing coherent)
      listed newer

end

instance (taxonomy : Taxonomy) (bodies : Int → Text) (sums : List Text) (journals : List Journal) :
    Decidable (BringsNew taxonomy bodies sums journals) :=
  inferInstanceAs (Decidable (∃ thought ∈ thoughtsOf taxonomy bodies journals, _))

/-- Batches of two make progress at first, but two journals that repeat the first one keep them from
the last one. -/
theorem repeated_batches_past_repetitions :
    let listing : List Journal := [⟨4, "2026-03-04".toList⟩, ⟨3, "2026-03-03".toList⟩,
      ⟨2, "2026-03-02".toList⟩, ⟨1, "2026-03-01".toList⟩]
    let table := [(1, "## Area\n- a\n- b".toList), (2, "## Area\n- b".toList),
      (3, "## Project\n- a".toList), (4, "## Area\n- c".toList)]
    let source := Source.ofTable listing table
    (newerThan (syncBatch source ⟨Dictionary.empty⟩ Memory.empty (some 2)).latest listing).length <
        (newerThan Memory.empty.latest listing).length ∧
      ¬ ∀ journal ∈ listing, Memory.empty.latest < journal.title → ∃ rounds, journal ∈
        batch (repeatBatch source ⟨Dictionary.empty⟩ Memory.empty 2 rounds) 2 listing := by
  intro listing table source
  have served : source.Serves listing fun id => (table.lookup id).getD [] :=
    serves_ofTable (by decide)
  have distinct : (listing.map Journal.title).Nodup := by decide
  have law := repeated_batches_iff served distinct ⟨Dictionary.empty⟩ Memory.coherent_empty 2
  refine ⟨law.1.mpr (by decide +kernel), fun reached => ?_⟩
  have fertile := law.2.2.mp reached [⟨1, "2026-03-01".toList⟩]
    [⟨2, "2026-03-02".toList⟩, ⟨3, "2026-03-03".toList⟩] [⟨4, "2026-03-04".toList⟩]
    (by decide +kernel) rfl (List.cons_ne_nil _ _)
  revert fertile
  decide +kernel

/-- The first of two journals has no thought, so a sync that reads one journal reads it and leaves
two journals newer than the store, as before. -/
theorem empty_journal_stalls :
    let listing : List Journal := [⟨2, "2026-02-02".toList⟩, ⟨1, "2026-02-01".toList⟩]
    let table := [(1, []), (2, "## Area\n- b".toList)]
    let source := Source.ofTable listing table
    let next := syncBatch source ⟨Dictionary.empty⟩ Memory.empty (some 1)
    source.Serves listing (fun id => (table.lookup id).getD []) ∧
      (listing.map Journal.title).Nodup ∧
      (batch Memory.empty 1 listing).length = 1 ∧
      ¬ (newerThan next.latest listing).length <
        (newerThan Memory.empty.latest listing).length := by
  intro listing table source next
  have served : source.Serves listing fun id => (table.lookup id).getD [] :=
    serves_ofTable (by decide)
  exact ⟨served, by decide, by decide +kernel, by decide +kernel⟩

end ThoughtJournal.Sync
