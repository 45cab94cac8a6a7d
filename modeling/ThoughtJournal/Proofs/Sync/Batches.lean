import ThoughtJournal.Proofs.Sync.Timeline

/-! # Syncing in batches

Incremental syncs with limits read the pending journals of a listing in batches, and each of them
starts from the latest date that is stored by then. A journal that adds nothing does not move that
date, so a batch can begin with journals that an earlier one has read. Still the store is always one
that has read the pending journals up to its latest date and no others (`Sync.Continues`), whatever
the limits were, and so one more sync without limit completes it to the rows of a single sync
(`Sync.rows_after_batches`).
-/

namespace ThoughtJournal.Sync

/-- Read at most so many of the journals after the latest stored date and write them. -/
def Options.limited (limit : Option Nat) : Options := ⟨false, false, limit⟩

/-- The store after an incremental sync with a limit. -/
def syncBatch (source : Source) (taxonomy : Taxonomy) (store : Memory) (limit : Option Nat) :
    Memory :=
  (run source taxonomy (.limited limit) store).store

/-- The store after incremental syncs one after the other, each with its limit. -/
def syncBatches (source : Source) (taxonomy : Taxonomy) (store : Memory)
    (limits : List (Option Nat)) : Memory :=
  limits.foldl (syncBatch source taxonomy) store

/-- A store with the rows of another one and what the journals that are pending for that one, up to
the latest date of the store, add to them. -/
structure Continues (taxonomy : Taxonomy) (bodies : Int → Text) (listing : List Journal)
    (base store : Memory) : Prop where
  coherent : store.Coherent
  notBefore : ¬ store.latest < base.latest
  rows : store.rows = base.rows ++ Thought.additions base.rows
    (thoughtsOf taxonomy bodies
      (datedUpTo store.latest (Journal.selectDelta base.latest listing)))

section

variable {source : Source} {taxonomy : Taxonomy} {listing : List Journal} {bodies : Int → Text}
variable {base store : Memory}

/-- Before any batch no pending journal counts as read. -/
theorem Continues.refl (taxonomy : Taxonomy) (bodies : Int → Text) (listing : List Journal)
    (coherent : base.Coherent) : Continues taxonomy bodies listing base base where
  coherent := coherent
  notBefore := List.lt_irrefl base.latest
  rows := by
    have none : datedUpTo base.latest (Journal.selectDelta base.latest listing) = [] := by
      rw [List.eq_nil_iff_forall_not_mem]
      intro journal member
      obtain ⟨pending, old⟩ := mem_datedUpTo.mp member
      exact old (mem_selectDelta.mp pending).2
    rw [none]
    exact (List.append_nil base.rows).symm

/-- A store that has read some of the pending journals, in their order, has its latest date before
the titles of all others. -/
theorem latest_lt_of_unread (distinct : (listing.map Journal.title).Nodup)
    {read unread : List Journal} (split : Journal.selectDelta base.latest listing = read ++ unread)
    (rows : store.rows =
      base.rows ++ Thought.additions base.rows (thoughtsOf taxonomy bodies read))
    {journal : Journal} (member : journal ∈ unread) : store.latest < journal.title := by
  have pending := listed_of_split split (List.mem_append_right read member)
  apply latest_lt_title rows pending.2
  intro earlier before
  exact title_lt_of_split distinct split before member

/-- Whoever has added the thoughts of the first pending journals continues the store. -/
theorem continues_of_read (distinct : (listing.map Journal.title).Nodup)
    {read unread : List Journal} (split : Journal.selectDelta base.latest listing = read ++ unread)
    (coherent : store.Coherent)
    (rows : store.rows =
      base.rows ++ Thought.additions base.rows (thoughtsOf taxonomy bodies read)) :
    Continues taxonomy bodies listing base store where
  coherent := coherent
  notBefore := by
    apply Memory.not_latest_lt_of_rows rows
    intro row added
    obtain ⟨journal, member, dated⟩ :=
      exists_title_of_mem_thoughtsOf (Thought.mem_of_mem_additions added)
    exact dated ▸ (listed_of_split split (List.mem_append_left unread member)).2
  rows := by
    have ordered : Ordered read :=
      (ordered_selectDelta distinct base.latest).sublist (split ▸ List.sublist_append_left _ _)
    -- No unread journal is titled up to the latest date, and what was read after it added nothing.
    rw [split, datedUpTo_append_of_newer fun _ member =>
      latest_lt_of_unread distinct split rows member, additions_datedUpTo ordered rows]
    exact rows

/-- What is still pending are the pending journals after the latest date. -/
theorem Continues.selectDelta_eq (continues : Continues taxonomy bodies listing base store)
    (distinct : (listing.map Journal.title).Nodup) :
    Journal.selectDelta store.latest listing =
      newerThan store.latest (Journal.selectDelta base.latest listing) :=
  selectDelta_of_not_lt distinct continues.notBefore

/-- The latest date cuts the pending journals into those that count as read and those still
pending. -/
theorem Continues.cut (continues : Continues taxonomy bodies listing base store)
    (distinct : (listing.map Journal.title).Nodup) :
    datedUpTo store.latest (Journal.selectDelta base.latest listing) ++
      Journal.selectDelta store.latest listing = Journal.selectDelta base.latest listing := by
  rw [continues.selectDelta_eq distinct]
  exact (ordered_selectDelta distinct base.latest).cut store.latest

/-- More journals add to the store what they add behind the journals that count as read. -/
theorem Continues.rows_append (continues : Continues taxonomy bodies listing base store)
    (journals : List Journal) :
    store.rows ++ Thought.additions store.rows (thoughtsOf taxonomy bodies journals) =
      base.rows ++ Thought.additions base.rows (thoughtsOf taxonomy bodies
        (datedUpTo store.latest (Journal.selectDelta base.latest listing) ++ journals)) := by
  rw [thoughtsOf_append, Thought.additions_append, ← List.append_assoc, ← continues.rows]

/-- A batch adds to the rows what its journals add behind the journals that count as read. -/
theorem Continues.rows_after_batch (continues : Continues taxonomy bodies listing base store)
    (served : source.Serves listing bodies) (limit : Option Nat) :
    (syncBatch source taxonomy store limit).rows =
      base.rows ++ Thought.additions base.rows (thoughtsOf taxonomy bodies
        (datedUpTo store.latest (Journal.selectDelta base.latest listing) ++
          selection (.limited limit) store.latest listing)) := by
  rw [← continues.rows_append]
  exact rows_run_served served taxonomy rfl continues.coherent

/-- A batch reads on from where the store stands. -/
theorem Continues.after_batch (continues : Continues taxonomy bodies listing base store)
    (served : source.Serves listing bodies) (distinct : (listing.map Journal.title).Nodup)
    (limit : Option Nat) :
    Continues taxonomy bodies listing base (syncBatch source taxonomy store limit) := by
  obtain ⟨unread, split⟩ := selection_prefix_selectDelta (.limited limit) store.latest listing
  have pending := continues.cut distinct
  rw [← split, ← List.append_assoc] at pending
  exact continues_of_read distinct pending.symm
    (coherent_run_served served taxonomy rfl continues.coherent)
    (continues.rows_after_batch served limit)

/-- However many batches are read, with whatever limits, the store has read the pending journals up
to its latest date. -/
theorem Continues.after_batches (continues : Continues taxonomy bodies listing base store)
    (served : source.Serves listing bodies) (distinct : (listing.map Journal.title).Nodup)
    (limits : List (Option Nat)) :
    Continues taxonomy bodies listing base (syncBatches source taxonomy store limits) := by
  induction limits generalizing store with
  | nil => exact continues
  | cons limit rest ih => exact ih (continues.after_batch served distinct limit)

/-- **Reading in batches loses nothing.** Whatever limits the syncs before it had, a sync without
limit leaves the rows that it would have left alone, in the same order. -/
theorem rows_after_batches (served : source.Serves listing bodies)
    (distinct : (listing.map Journal.title).Nodup) (taxonomy : Taxonomy) {store : Memory}
    (coherent : store.Coherent) (limits : List (Option Nat)) :
    (run source taxonomy .incremental (syncBatches source taxonomy store limits)).store.rows =
      (run source taxonomy .incremental store).store.rows := by
  have continues : Continues taxonomy bodies listing store
      (syncBatches source taxonomy store limits) :=
    (Continues.refl taxonomy bodies listing coherent).after_batches served distinct limits
  rw [rows_run_incremental served taxonomy continues.coherent, continues.rows_append,
    continues.cut distinct, rows_run_incremental served taxonomy coherent]

end

/-- Batches of one journal, of none and of two; the second and the third journal add nothing, so
they are read again. -/
theorem rows_after_batches_with_repetitions :
    let listing : List Journal := [⟨5, "2026-03-05".toList⟩, ⟨4, "2026-03-04".toList⟩,
      ⟨3, "2026-03-03".toList⟩, ⟨2, "2026-03-02".toList⟩, ⟨1, "2026-03-01".toList⟩]
    let table := [(1, "## Area\n- a\n- b".toList), (2, []), (3, "## Area\n- b".toList),
      (4, "## Project\n- a\n- c".toList), (5, "## Area\n- d".toList)]
    let source := Source.ofTable listing table
    let stored := Thought.compose "2026-02-01".toList ['d'] .area []
    let store := (Memory.empty.insert stored).2
    let limits := [some 1, some 0, some 2]
    (syncBatches source ⟨Dictionary.empty⟩ store limits).latest = "2026-03-01".toList ∧
      (run source ⟨Dictionary.empty⟩ .incremental store).store.rows.map Thought.content =
        [['d'], ['a'], ['b'], ['c']] ∧
      (run source ⟨Dictionary.empty⟩ .incremental
          (syncBatches source ⟨Dictionary.empty⟩ store limits)).store.rows =
        (run source ⟨Dictionary.empty⟩ .incremental store).store.rows := by
  intro listing table source stored store limits
  have served : source.Serves listing fun id => (table.lookup id).getD [] :=
    serves_ofTable (by decide)
  have distinct : (listing.map Journal.title).Nodup := by decide
  have coherent : store.Coherent := Memory.coherent_empty.insert stored
  refine ⟨by decide +kernel, by decide +kernel, ?_⟩
  exact rows_after_batches served distinct ⟨Dictionary.empty⟩ coherent limits

end ThoughtJournal.Sync
