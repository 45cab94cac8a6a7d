import ThoughtJournal.Proofs.Sync.Accounts

/-! # Syncs that agree

What a sync reads depends neither on what it writes nor on the order in which the tracker lists the
journals. So a dry run from a store tells in advance what the run that writes will read and extract,
and it fails where that one fails (`Sync.dry_run_predicts`). And with distinct titles any order of the
listing gives the same run (`Sync.run_relisted`), since the journals newer than the watermark have one
ascending order, which the limit cuts (`Sync.selection_congr`).
-/

namespace ThoughtJournal.Sync

/-- The source with another listing. -/
def Source.relisted (source : Source) (listing : List Journal) : Source :=
  { source with index := .ok listing }

/-- What the report of a dry run tells of the run that writes. -/
structure Report.Predicts (predicted actual : Report) : Prop where
  watermark : predicted.watermark = actual.watermark
  listed : predicted.journalsListed = actual.journalsListed
  selected : predicted.journalsSelected = actual.journalsSelected
  ingested : predicted.journalsIngested = actual.journalsIngested
  skipped : predicted.skipped = actual.skipped
  extracted : predicted.thoughtsExtracted = actual.thoughtsExtracted

section

variable {σ : Type} [ThoughtStore σ]

/-! ## Dry runs -/

/-- A dry run leaves the store as it was. -/
theorem store_run_dry {options : Options} (dry : options.dryRun = true) (source : Source)
    (taxonomy : Taxonomy) (store : σ) : (run source taxonomy options store).store = store := by
  cases resolved : watermarkFor options store with
  | error fault => rw [run_of_unresolved resolved]
  | ok watermark =>
      cases listed : source.index with
      | error cause => rw [run_of_unlisted resolved listed]
      | ok index =>
          rw [run_of_listed resolved listed]
          exact store_finalProgress_dry dry source taxonomy store watermark index

/-- Runs with the same selection read and extract the same, whether they write or not. -/
theorem report_predicts (source : Source) (taxonomy : Taxonomy) {dry writing : Options}
    {watermark : Text} {index : List Journal}
    (same : selection dry watermark index = selection writing watermark index) (store : σ) :
    Report.Predicts
      ((finalProgress source taxonomy dry store watermark index).report dry watermark index.length
        (selection dry watermark index).length)
      ((finalProgress source taxonomy writing store watermark index).report writing watermark
        index.length (selection writing watermark index).length) := by
  obtain ⟨_, skipped, ingested⟩ := reading_finalProgress source taxonomy dry store watermark index
  obtain ⟨_, alsoSkipped, alsoIngested⟩ :=
    reading_finalProgress source taxonomy writing store watermark index
  have extracted := extracted_finalProgress source taxonomy dry store watermark index
  have alsoExtracted := extracted_finalProgress source taxonomy writing store watermark index
  rw [← same] at alsoSkipped alsoIngested alsoExtracted
  exact ⟨rfl, rfl, congrArg List.length same, ingested.trans alsoIngested.symm,
    skipped.trans alsoSkipped.symm, extracted.trans alsoExtracted.symm⟩

/-- **A dry run predicts.** From the same store, a dry run and the run that writes ask for the same
bodies in the same order, and either both fail with the same fault or their reports agree on what was
read and extracted. The dry run leaves the store as it is, and its report shows the categories of that
store. -/
theorem dry_run_predicts (source : Source) (taxonomy : Taxonomy) (full : Bool)
    (limit : Option Nat) (store : σ) :
    let rehearsal := run source taxonomy ⟨full, true, limit⟩ store
    let real := run source taxonomy ⟨full, false, limit⟩ store
    rehearsal.store = store ∧ rehearsal.fetched = real.fetched ∧
      ((∃ fault, rehearsal.outcome = .error fault ∧ real.outcome = .error fault) ∨
        ∃ predicted actual, rehearsal.outcome = .ok predicted ∧ real.outcome = .ok actual ∧
          predicted.Predicts actual ∧
          predicted.stats = (ThoughtStore.stats store).toOption) := by
  intro rehearsal real
  have unchanged : rehearsal.store = store := store_run_dry rfl source taxonomy store
  refine ⟨unchanged, ?_⟩
  -- Whether a run writes decides neither its watermark nor its selection.
  have sameWatermark : watermarkFor ⟨full, true, limit⟩ store =
      watermarkFor ⟨full, false, limit⟩ store := rfl
  have sameSelection (watermark : Text) (index : List Journal) :
      selection ⟨full, true, limit⟩ watermark index =
        selection ⟨full, false, limit⟩ watermark index := rfl
  cases resolved : watermarkFor ⟨full, false, limit⟩ store with
  | error fault =>
      have dry : rehearsal = _ := run_of_unresolved (sameWatermark.trans resolved) source taxonomy
      have written : real = _ := run_of_unresolved resolved source taxonomy
      rw [dry, written]
      exact ⟨rfl, Or.inl ⟨fault, rfl, rfl⟩⟩
  | ok watermark =>
      have alsoResolved := sameWatermark.trans resolved
      cases listed : source.index with
      | error cause =>
          have dry : rehearsal = _ := run_of_unlisted alsoResolved listed taxonomy
          have written : real = _ := run_of_unlisted resolved listed taxonomy
          rw [dry, written]
          exact ⟨rfl, Or.inl ⟨_, rfl, rfl⟩⟩
      | ok index =>
          have dry : rehearsal = _ := run_of_listed alsoResolved listed taxonomy
          have written : real = _ := run_of_listed resolved listed taxonomy
          have fetched : rehearsal.fetched = real.fetched := by
            rw [dry, written]
            calc
              _ = (selection ⟨full, true, limit⟩ watermark index).map Journal.id :=
                (reading_finalProgress ..).1
              _ = _ := (reading_finalProgress source taxonomy ⟨full, false, limit⟩ ..).1.symm
          have predicts := report_predicts source taxonomy (sameSelection watermark index) store
          have reported := congrArg Run.outcome dry
          refine ⟨fetched, Or.inr ⟨_, _, reported, congrArg Run.outcome written, predicts, ?_⟩⟩
          rw [stats_of_reported reported]
          exact congrArg (fun after => (ThoughtStore.stats after).toOption) unchanged

/-! ## Listings in another order -/

/-- With distinct titles the order of the listing makes no difference to the selection. -/
theorem selectDelta_congr {listing relisting : List Journal} (rearranged : listing.Perm relisting)
    (distinct : (listing.map Journal.title).Nodup) (watermark : Text) :
    Journal.selectDelta watermark listing = Journal.selectDelta watermark relisting :=
  Journal.sortByTitle_congr (rearranged.filter _)
    (distinct.sublist (List.filter_sublist.map Journal.title))

/-- With distinct titles every order of the listing gives the same selection. -/
theorem selection_congr {listing relisting : List Journal} (rearranged : listing.Perm relisting)
    (distinct : (listing.map Journal.title).Nodup) (options : Options) (watermark : Text) :
    selection options watermark listing = selection options watermark relisting := by
  unfold selection
  rw [selectDelta_congr rearranged distinct]

/-- **The order of the listing does not matter.** With distinct titles a run over the same journals in
another order has the same outcome, asks for the same bodies in the same order and leaves the same
store. -/
theorem run_relisted {listing relisting : List Journal} (rearranged : listing.Perm relisting)
    (distinct : (listing.map Journal.title).Nodup) (source : Source) (taxonomy : Taxonomy)
    (options : Options) (store : σ) :
    run (source.relisted relisting) taxonomy options store =
      run (source.relisted listing) taxonomy options store := by
  cases resolved : watermarkFor options store with
  | error fault => rw [run_of_unresolved resolved, run_of_unresolved resolved]
  | ok watermark =>
      have selected := selection_congr rearranged distinct options watermark
      have final : finalProgress (source.relisted relisting) taxonomy options store watermark
            relisting =
          finalProgress (source.relisted listing) taxonomy options store watermark listing := by
        unfold finalProgress
        rw [selected]
        rfl
      rw [run_of_listed resolved (show (source.relisted relisting).index = .ok relisting from rfl),
        run_of_listed resolved (show (source.relisted listing).index = .ok listing from rfl), final,
        selected, rearranged.length_eq]

end

/-- A limit, a body that cannot be fetched, an insertion that fails, and thoughts that repeat each
other and a stored one. -/
theorem run_relisted_with_failures :
    let listing : List Journal := [⟨4, ['5']⟩, ⟨1, ['2']⟩, ⟨3, ['4']⟩, ⟨2, ['3']⟩]
    let source := Source.ofTable []
      [(1, "## Area\n- old\n- b\n- c".toList), (3, "## Project\n- c\n- b\n- d".toList)]
    let options : Options := ⟨false, false, some 3⟩
    let stored := Thought.compose ['1', '9', '9'] "old".toList .area []
    let plan : FaultPlan :=
      ⟨none, none, fun attempt _ => if attempt = 1 then some (Failure.of []) else none⟩
    let store : Faulty Memory := ⟨(Memory.empty.insert stored).2, plan, 0⟩
    let first := run (source.relisted listing) ⟨Dictionary.empty⟩ options store
    first.fetched = [1, 2, 3] ∧
      first.store.inner.rows.map Thought.content =
        ["old".toList, "c".toList, "b".toList, "d".toList] ∧
      run (source.relisted listing.reverse) ⟨Dictionary.empty⟩ options store = first := by
  intro listing source options stored plan store first
  have distinct : (listing.map Journal.title).Nodup := by decide
  exact ⟨by decide +kernel, by decide +kernel,
    run_relisted listing.reverse_perm.symm distinct source ⟨Dictionary.empty⟩ options store⟩

end ThoughtJournal.Sync
