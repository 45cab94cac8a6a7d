import ThoughtJournal.Proofs.Journal.Selection
import ThoughtJournal.Proofs.Sync.Accounts
import ThoughtJournal.Proofs.Sync.Faultless

/-! # Which listed journals a sync reads

A sync reads the listed journals that are titled after its watermark, as far as its limit goes. So it
reads none of them exactly if none is titled after the watermark or if the limit is zero, and only in
the first case is its report right to say that it is up to date (`Sync.isUpToDate_iff`).

A sync that is to consider every journal starts from the epoch instead of the watermark of its store.
The epoch is a title like any other one, so a journal that is titled no later is left out: without a
limit the sync reads all listed journals exactly if all of them are titled after the epoch
(`Sync.full_run_reads_all_iff`).
-/

namespace ThoughtJournal

namespace Journal

/-- Nothing is selected if and only if nothing is titled after the watermark. -/
theorem selectDelta_eq_nil_iff {watermark : Text} {listing : List Journal} :
    selectDelta watermark listing = [] ↔ ∀ journal ∈ listing, ¬ watermark < journal.title := by
  rw [List.eq_nil_iff_forall_not_mem]
  constructor
  · intro none journal listed newer
    exact none journal (Sync.mem_selectDelta.mpr ⟨listed, newer⟩)
  · intro old journal member
    obtain ⟨listed, newer⟩ := Sync.mem_selectDelta.mp member
    exact old journal listed newer

/-- A selection by title takes a whole listing if and only if all titles come after the watermark. -/
theorem IsSelection.perm_iff {watermark : Text} {listing selected : List Journal}
    (selection : IsSelection title Text.before watermark listing selected) :
    selected.Perm listing ↔ ∀ journal ∈ listing, watermark < journal.title := by
  constructor
  · intro whole journal listed
    have kept := selection.perm.mem_iff.mp (whole.mem_iff.mpr listed)
    exact (Text.before_iff _ _).mp (List.mem_filter.mp kept).2
  · intro newer
    have all : (listing.filter fun journal => Text.before watermark journal.title) = listing :=
      List.filter_eq_self.mpr fun journal listed =>
        (Text.before_iff _ _).mpr (newer journal listed)
    have perm := selection.perm
    rwa [all] at perm

end Journal

namespace Sync

variable {σ : Type} [ThoughtStore σ]

/-! ## Up to date -/

/-- Nothing is selected if nothing is newer than the watermark, or if nothing may be. -/
theorem selection_eq_nil_iff {options : Options} {watermark : Text} {listing : List Journal} :
    selection options watermark listing = [] ↔
      (∀ journal ∈ listing, ¬ watermark < journal.title) ∨ options.limit = some 0 := by
  rw [← Journal.selectDelta_eq_nil_iff]
  unfold selection
  cases options.limit with
  | none => simp only [reduceCtorEq, or_false]
  | some limit => rw [List.take_eq_nil_iff, Option.some.injEq, or_comm]

/-- The report tells how many of the listed journals were selected after its watermark. -/
theorem journalsSelected_of_reported {source : Source} {taxonomy : Taxonomy} {options : Options}
    {store : σ} {report : Report}
    (reported : (run source taxonomy options store).outcome = .ok report) :
    ∃ listing, source.index = .ok listing ∧
      report.journalsSelected = (selection options report.watermark listing).length := by
  obtain ⟨watermark, listing, resolved, listed⟩ := listed_of_reported reported
  rw [run_of_listed resolved listed taxonomy] at reported
  obtain rfl := Except.ok.inj reported
  exact ⟨listing, listed, rfl⟩

/-- **When a report says that the store is up to date.** It says so if and only if no listed journal is
titled after its watermark or no journal was to be read at all. -/
theorem isUpToDate_iff {source : Source} {taxonomy : Taxonomy} {options : Options} {store : σ}
    {report : Report} (reported : (run source taxonomy options store).outcome = .ok report) :
    ∃ listing, source.index = .ok listing ∧
      (report.isUpToDate = true ↔
        (∀ journal ∈ listing, ¬ report.watermark < journal.title) ∨ options.limit = some 0) := by
  obtain ⟨listing, listed, selected⟩ := journalsSelected_of_reported reported
  refine ⟨listing, listed, ?_⟩
  unfold Report.isUpToDate
  rw [selected, beq_iff_eq, List.length_eq_zero_iff]
  exact selection_eq_nil_iff

/-- A sync that may read one journal finds none after the stored date, which one of the listed journals
has for its title. -/
theorem isUpToDate_of_old_journals :
    let listing : List Journal := [⟨2, "2026-02-18".toList⟩, ⟨1, "2026-02-17".toList⟩]
    let source := Source.ofTable listing [(1, "## Area\n- a".toList)]
    let stored := Thought.compose "2026-02-18".toList ['b'] .area []
    let store := (Memory.empty.insert stored).2
    ∃ report, (run source ⟨Dictionary.empty⟩ ⟨false, false, some 1⟩ store).outcome = .ok report ∧
      report.isUpToDate = true ∧
      ∃ listed, source.index = .ok listed ∧ ∀ journal ∈ listed, ¬ report.watermark < journal.title := by
  intro listing source stored store
  have reported : ∃ report,
      (run source ⟨Dictionary.empty⟩ ⟨false, false, some 1⟩ store).outcome = .ok report ∧
        report.isUpToDate = true := ⟨_, rfl, by decide +kernel⟩
  obtain ⟨report, reported, current⟩ := reported
  obtain ⟨listed, answered, truthful⟩ := isUpToDate_iff reported
  exact ⟨report, reported, current, listed, answered,
    (truthful.mp current).resolve_right (by decide)⟩

/-- A sync that may read no journal calls a store up to date that has read none of the listed ones. -/
theorem isUpToDate_at_limit_zero :
    let listing : List Journal := [⟨1, "2026-02-18".toList⟩]
    let source := Source.ofTable listing [(1, "## Area\n- a".toList)]
    ∃ report, (run source ⟨Dictionary.empty⟩ ⟨false, false, some 0⟩ Memory.empty).outcome =
        .ok report ∧
      report.isUpToDate = true ∧
      ¬ ∀ journal ∈ listing, ¬ report.watermark < journal.title := by
  intro listing source
  exact ⟨_, rfl, by decide +kernel, by decide +kernel⟩

/-! ## Considering every journal -/

/-- A run that is to consider every journal starts from the epoch, whatever its store holds. -/
theorem run_of_full {source : Source} {options : Options} {listing : List Journal}
    (full : options.full = true) (listed : source.index = .ok listing) (taxonomy : Taxonomy)
    (store : σ) :
    let ending := run source taxonomy options store
    let visited := selection options epoch listing
    ending.fetched = visited.map Journal.id ∧
      ∃ report, ending.outcome = .ok report ∧ report.journalsListed = listing.length ∧
        report.journalsSelected = visited.length := by
  intro ending visited
  have resolved : watermarkFor options store = .ok epoch := by
    unfold watermarkFor
    rw [if_pos full]
  have ended : ending = _ := run_of_listed resolved listed taxonomy
  rw [ended]
  exact ⟨(reading_finalProgress source taxonomy options store epoch listing).1, _, rfl, rfl, rfl⟩

/-- **When a full sync reads everything.** A sync that is to consider every journal, without a limit,
reads the only selection of the listing by title after the epoch. It selects as many journals as are
listed and asks once for the body of each of them, in the order of their titles, if and only if all of
them are titled after the epoch. -/
theorem full_run_reads_all_iff {source : Source} {listing : List Journal}
    (listed : source.index = .ok listing) (taxonomy : Taxonomy) (dryRun : Bool) (store : σ) :
    let ending := run source taxonomy ⟨true, dryRun, none⟩ store
    ∃ report visited, ending.outcome = .ok report ∧ report.journalsListed = listing.length ∧
      report.journalsSelected = visited.length ∧ ending.fetched = visited.map Journal.id ∧
      Journal.IsSelection Journal.title Text.before epoch listing visited ∧
      (report.journalsSelected = report.journalsListed ∧ visited.Perm listing ↔
        ∀ journal ∈ listing, epoch < journal.title) := by
  intro ending
  have full : (⟨true, dryRun, none⟩ : Options).full = true := rfl
  obtain ⟨fetched, report, reported, all, selected⟩ := run_of_full full listed taxonomy store
  have selection := Journal.isSelection_selectDelta epoch listing
  refine ⟨report, Journal.selectDelta epoch listing, reported, all, selected, fetched, selection, ?_⟩
  rw [← selection.perm_iff]
  refine ⟨fun read => read.2, fun whole => ⟨?_, whole⟩⟩
  rw [selected, all]
  exact whole.length_eq

/-- A dry run over journals that are not listed in order, with two of the same title and one that
cannot be read, and a store with a later date. -/
theorem full_run_reads_all_of_dated :
    let listing : List Journal := [⟨4, "2026-02-18".toList⟩, ⟨3, "1970-01-02".toList⟩,
      ⟨2, "Ideas".toList⟩, ⟨1, "2026-02-18".toList⟩]
    let source := Source.ofTable listing [(1, "## Area\n- a".toList), (4, []), (2, [])]
    let stored := Thought.compose "2026-03-01".toList ['b'] .area []
    let store := (Memory.empty.insert stored).2
    let ending := run source ⟨Dictionary.empty⟩ ⟨true, true, none⟩ store
    source.index = .ok listing ∧ ending.fetched = [3, 4, 1, 2] ∧
      ∃ (report : Report) (visited : List Journal), ending.outcome = .ok report ∧
        ending.fetched = visited.map Journal.id ∧
        report.journalsSelected = report.journalsListed ∧ visited.Perm listing := by
  intro listing source stored store ending
  have dated : ∀ journal ∈ listing, epoch < journal.title := by decide +kernel
  have listed : source.index = .ok listing := rfl
  obtain ⟨report, visited, reported, _, _, fetched, _, whole⟩ :=
    full_run_reads_all_iff listed ⟨Dictionary.empty⟩ true store
  exact ⟨listed, by decide +kernel, report, visited, reported, fetched, whole.mpr dated⟩

/-- A full sync leaves out a journal of the day before the epoch. -/
theorem full_run_skips_early_journal :
    let listing : List Journal := [⟨2, "2026-02-18".toList⟩, ⟨1, "1969-12-31".toList⟩]
    let table := [(1, "## Area\n- a".toList), (2, "## Area\n- b".toList)]
    let ending := run (Source.ofTable listing table) ⟨Dictionary.empty⟩ ⟨true, false, none⟩
      Memory.empty
    ending.fetched = [2] ∧
      ∃ report, ending.outcome = .ok report ∧ report.journalsListed = 2 ∧
        report.journalsSelected = 1 := by
  intro listing table ending
  exact ⟨by decide +kernel, _, rfl, by decide +kernel, by decide +kernel⟩

end Sync

end ThoughtJournal
