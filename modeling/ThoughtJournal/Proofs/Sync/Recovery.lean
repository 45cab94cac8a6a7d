import ThoughtJournal.Proofs.Sync.Faultless

/-! # Syncing again after failures

A sync passes over the bodies and the insertions that fail, and the next one starts after the latest
date that is stored by then. So it makes up for what failed in later journals and leaves out what
failed in the others: the store ends up with all that a sync without failures would have stored
exactly when every thought that failed in a journal titled no later than that date is stored anyway
or recurs in a later journal (`Sync.covers_second_run_iff`). A journal that is skipped while a later
one is stored is lost (`Sync.skipped_journal_not_covered`).
-/

namespace ThoughtJournal

/-- The store holds the checksum of every row of another one. -/
def Memory.Covers (store other : Memory) : Prop :=
  ∀ row ∈ other.rows, row.checksum ∈ store.rows.map Thought.checksum

instance (store other : Memory) : Decidable (store.Covers other) :=
  inferInstanceAs (Decidable (∀ row ∈ other.rows, _))

namespace Sync

/-- The thoughts that a run which reads and writes everything hands over without a failure. -/
def delivered (source : Source) (taxonomy : Taxonomy) (store : Faulty Memory)
    (listing : List Journal) : List Thought :=
  store.plan.accepted store.attempts
    (offered source taxonomy 0 (chosen none store.inner.latest listing))

/-- What is delivered is stored. -/
theorem checksum_mem_of_delivered {source : Source} {taxonomy : Taxonomy} {store : Faulty Memory}
    {listing : List Journal} (coherent : store.inner.Coherent)
    (listed : source.index = .ok listing) (answered : store.plan.latest = none)
    {thought : Thought} (member : thought ∈ delivered source taxonomy store listing) :
    thought.checksum ∈ (run source taxonomy .incremental store).store.inner.rows.map
      Thought.checksum := by
  have resolved : watermarkFor .incremental store = .ok store.inner.latest := by
    simp only [watermarkFor, Options.incremental, resolveWatermark, ThoughtStore.latest,
      Faulty.guarded, answered, Bool.false_eq_true, ↓reduceIte]
  rw [store_run resolved listed rfl, Faulty.inner_insertAll, Memory.rows_insertAll coherent,
    selection_eq_chosen, Thought.mem_checksums_append_additions]
  exact Or.inr (List.mem_map.mpr ⟨thought, member, rfl⟩)

/-- **What a second sync makes up for.** After an incremental sync in which bodies and insertions
may fail, a second one in which nothing fails leaves the store with the checksums that it held and
those of the journals titled after its latest date. It covers what one sync without failures would
have stored exactly when every thought that was not delivered from a journal titled no later than
that date is stored anyway or recurs in a journal titled after it. -/
theorem covers_second_run_iff (lapsing sound : Source) (taxonomy : Taxonomy)
    (store : Faulty Memory) (listing : List Journal) (bodies : Int → Text)
    (coherent : store.inner.Coherent) (answered : store.plan.latest = none)
    (listed : lapsing.index = .ok listing) (served : sound.Serves listing bodies) :
    let first := (run lapsing taxonomy .incremental store).store.inner
    let second := (run sound taxonomy .incremental first).store
    let direct := (run sound taxonomy .incremental store.inner).store
    let sums journal :=
      (taxonomy.atomize journal.title (bodies journal.id)).map Thought.checksum
    (∀ sum, sum ∈ second.rows.map Thought.checksum ↔ sum ∈ first.rows.map Thought.checksum ∨
      ∃ journal ∈ listing, first.latest < journal.title ∧ sum ∈ sums journal) ∧
    (second.Covers direct ↔ ∀ journal ∈ listing,
      store.inner.latest < journal.title → ¬ first.latest < journal.title →
        ∀ thought ∈ taxonomy.atomize journal.title (bodies journal.id),
          thought ∉ delivered lapsing taxonomy store listing →
            thought.checksum ∈ first.rows.map Thought.checksum ∨
              ∃ later ∈ listing, first.latest < later.title ∧ thought.checksum ∈ sums later) := by
  intro first second direct sums
  have firstCoherent : first.Coherent := coherent_run coherent lapsing taxonomy .incremental
  have secondSums := mem_checksums_run_incremental served taxonomy firstCoherent
  have directSums := mem_checksums_run_incremental served taxonomy coherent
  refine ⟨secondSums, ?_⟩
  constructor
  · intro covers journal member newer _ thought extracted _
    have stored : thought.checksum ∈ direct.rows.map Thought.checksum :=
      (directSums _).mpr
        (Or.inr ⟨journal, member, newer, List.mem_map.mpr ⟨thought, extracted, rfl⟩⟩)
    obtain ⟨row, present, same⟩ := List.mem_map.mp stored
    exact (secondSums _).mp (same ▸ covers row present)
  · intro madeUp row present
    rcases (directSums row.checksum).mp (List.mem_map.mpr ⟨row, present, rfl⟩) with
      before | ⟨journal, member, newer, extracted⟩
    · have kept : store.inner.rows <+: first.rows :=
        rows_prefix_run coherent lapsing taxonomy .incremental
      exact (secondSums _).mpr (Or.inl ((kept.map Thought.checksum).subset before))
    · apply (secondSums _).mpr
      by_cases late : first.latest < journal.title
      · exact Or.inr ⟨journal, member, late, extracted⟩
      · obtain ⟨thought, inJournal, same⟩ := List.mem_map.mp extracted
        rw [← same]
        by_cases reached : thought ∈ delivered lapsing taxonomy store listing
        · exact Or.inl (checksum_mem_of_delivered coherent listed answered reached)
        · exact madeUp journal member newer late thought inJournal reached

/-- A body that fails in the later of two journals is made up for. -/
theorem covers_second_run_of_late_failure :
    let listing : List Journal :=
      [⟨2, "2026-02-02".toList⟩, ⟨1, "2026-02-01".toList⟩]
    let table := [(1, "## Area\n- a".toList), (2, "## Area\n- b".toList)]
    let lapsing := Source.ofTable listing (table.take 1)
    let sound := Source.ofTable listing table
    let first := (run lapsing ⟨Dictionary.empty⟩ .incremental (Faulty.ofStore Memory.empty)).store
    let second := (run sound ⟨Dictionary.empty⟩ .incremental first.inner).store
    let direct := (run sound ⟨Dictionary.empty⟩ .incremental Memory.empty).store
    first.inner.count = 1 ∧ second.count = 2 ∧ second.Covers direct := by
  intro listing table lapsing sound first second direct
  refine ⟨by decide +kernel, by decide +kernel, ?_⟩
  have served : sound.Serves listing fun id => (table.lookup id).getD [] :=
    serves_ofTable (by decide)
  refine (covers_second_run_iff lapsing sound ⟨Dictionary.empty⟩ (Faulty.ofStore Memory.empty)
    listing _ Memory.coherent_empty rfl rfl served).2.mpr ?_
  intro journal member _ early thought extracted _
  rcases List.mem_cons.mp member with rfl | member
  · have late : first.inner.latest < "2026-02-02".toList := by decide +kernel
    exact absurd late early
  · obtain rfl := List.mem_singleton.mp member
    have stored : ((Taxonomy.mk Dictionary.empty).atomize "2026-02-01".toList
        "## Area\n- a".toList).all (fun thought =>
          (first.inner.rows.map Thought.checksum).contains thought.checksum) = true := by
      decide +kernel
    exact Or.inl (List.contains_iff_mem.mp (List.all_eq_true.mp stored thought extracted))

/-- The body of the earlier of two journals fails while the later one is stored: the second sync
starts after both of them. -/
theorem skipped_journal_not_covered :
    let listing : List Journal :=
      [⟨2, "2026-02-02".toList⟩, ⟨1, "2026-02-01".toList⟩]
    let table := [(1, "## Area\n- a".toList), (2, "## Area\n- b".toList)]
    let lapsing := Source.ofTable listing (table.drop 1)
    let sound := Source.ofTable listing table
    let first := (run lapsing ⟨Dictionary.empty⟩ .incremental (Faulty.ofStore Memory.empty)).store
    let second := (run sound ⟨Dictionary.empty⟩ .incremental first.inner).store
    let direct := (run sound ⟨Dictionary.empty⟩ .incremental Memory.empty).store
    ¬ second.Covers direct := by
  decide +kernel

end Sync

end ThoughtJournal
