import ThoughtJournal.Proofs.Sync.Counters
import ThoughtJournal.Store.Connection

/-! # What the end of a sync tells

A sync fails only where it cannot learn its watermark or the index, and then it has touched nothing
(`Sync.run_fails_iff`). Every other sync ends with a report, and the report accounts for all that
happened (`Sync.report_accounts`).

What a run reads off its source, and in which order, depends neither on its store nor on whether it
writes (`Sync.Progress.reading_foldl_visit`). The counters of the thoughts are those of the outcomes
that the store gave. That they agree with the number of stored thoughts is a law of the store
(`ThoughtStore.Tallied`), which every kind of store here obeys.
-/

namespace ThoughtJournal

/-! ## Stores that count their thoughts -/

namespace ThoughtStore

/-- The number of thoughts grows by one with an insertion that succeeds and by nothing else. -/
class Tallied (σ : Type) [ThoughtStore σ] : Prop where
  count_insert : ∀ (store : σ) (thought : Thought),
    count (insert store thought).2 =
      (count store).map fun number => number + [(insert store thought).1].countP Sync.wasInserted

variable {σ : Type} [ThoughtStore σ]

/-- Handing over thoughts adds to the number of stored thoughts how many of them were inserted. -/
theorem count_insertAll [Tallied σ] (store : σ) (thoughts : List Thought) :
    count (insertAll store thoughts).2 =
      (count store).map fun number =>
        number + (insertAll store thoughts).1.countP Sync.wasInserted := by
  induction thoughts generalizing store with
  | nil =>
      rw [insertAll_nil]
      cases count store <;> rfl
  | cons thought rest ih =>
      have counted := ih (insert store thought).2
      rw [Tallied.count_insert] at counted
      rw [insertAll_cons]
      refine counted.trans ?_
      cases count store with
      | error failure => rfl
      | ok number =>
          apply congrArg Except.ok
          dsimp only
          rw [Nat.add_assoc, ← List.countP_append]
          rfl

instance : Tallied Memory where
  count_insert store thought := by
    change Except.ok (store.insert thought).2.count =
      Except.ok (store.count + [Except.ok (store.insert thought).1].countP Sync.wasInserted)
    by_cases taken : thought.checksum ∈ store.checksums
    · rw [Memory.insert_of_taken taken]
      rfl
    · rw [Memory.insert_of_free taken]
      exact congrArg Except.ok List.length_append

instance : Tallied Relational where
  count_insert database thought := by
    change (database.insert thought).2.count =
      database.count.map fun number =>
        number + [(database.insert thought).1].countP Sync.wasInserted
    obtain ⟨table⟩ := database
    cases table with
    | none => rfl
    | some rows =>
        unfold Relational.insert
        dsimp only
        split
        · rfl
        · exact congrArg Except.ok List.length_append

instance [Tallied σ] : Tallied (Faulty σ) where
  count_insert store thought := by
    change count (Faulty.insert store thought).2.inner =
      (count store.inner).map fun number =>
        number + [(Faulty.insert store thought).1].countP Sync.wasInserted
    unfold Faulty.insert
    cases store.plan.insert store.attempts thought with
    | none => exact Tallied.count_insert store.inner thought
    | some failure => cases count store.inner <;> rfl

instance : Tallied Connection where
  count_insert connection thought := by
    change (Connection.insert connection thought).2.database.count =
      connection.database.count.map fun number =>
        number + [(Connection.insert connection thought).1].countP Sync.wasInserted
    unfold Connection.insert
    cases connection.writable with
    | true => exact Tallied.count_insert connection.database thought
    | false =>
        simp only [Bool.false_eq_true, ↓reduceIte]
        cases connection.database.count <;> rfl

end ThoughtStore

namespace Sync

/-! ## What a run reads -/

theorem Source.readable_cons_of_ok {source : Source} {askedBefore : Nat} {journal : Journal}
    {body : Text} (fetched : source.body askedBefore journal.id = .ok body)
    (rest : List Journal) :
    source.readable askedBefore (journal :: rest) =
      (journal.title, body) :: source.readable (askedBefore + 1) rest := by
  simp only [Source.readable, List.zipIdx_cons, List.filterMap_cons, fetched, Except.toOption,
    Option.map_some]

theorem Source.readable_cons_of_error {source : Source} {askedBefore : Nat} {journal : Journal}
    {failure : Failure} (failed : source.body askedBefore journal.id = .error failure)
    (rest : List Journal) :
    source.readable askedBefore (journal :: rest) = source.readable (askedBefore + 1) rest := by
  simp only [Source.readable, List.zipIdx_cons, List.filterMap_cons, failed, Except.toOption,
    Option.map_none]

/-- The journals whose bodies cannot be fetched, in order, when a number of bodies were asked for
before. -/
def Source.unreadable (source : Source) (askedBefore : Nat) (journals : List Journal) :
    List Skipped :=
  (journals.zipIdx askedBefore).filterMap fun entry =>
    match source.body entry.2 entry.1.id with
    | .ok _ => none
    | .error failure => some ⟨entry.1.id, entry.1.title, failure.message⟩

theorem Source.unreadable_cons_of_ok {source : Source} {askedBefore : Nat} {journal : Journal}
    {body : Text} (fetched : source.body askedBefore journal.id = .ok body)
    (rest : List Journal) :
    source.unreadable askedBefore (journal :: rest) = source.unreadable (askedBefore + 1) rest := by
  simp only [Source.unreadable, List.zipIdx_cons, List.filterMap_cons, fetched]

theorem Source.unreadable_cons_of_error {source : Source} {askedBefore : Nat} {journal : Journal}
    {failure : Failure} (failed : source.body askedBefore journal.id = .error failure)
    (rest : List Journal) :
    source.unreadable askedBefore (journal :: rest) =
      ⟨journal.id, journal.title, failure.message⟩ :: source.unreadable (askedBefore + 1) rest := by
  simp only [Source.unreadable, List.zipIdx_cons, List.filterMap_cons, failed]

/-- Every journal is either read or skipped. -/
theorem Source.length_readable_add_unreadable (source : Source) (askedBefore : Nat)
    (journals : List Journal) :
    (source.readable askedBefore journals).length +
      (source.unreadable askedBefore journals).length = journals.length := by
  induction journals generalizing askedBefore with
  | nil => rfl
  | cons journal rest ih =>
      have others := ih (askedBefore + 1)
      rw [List.length_cons]
      cases answer : source.body askedBefore journal.id with
      | ok body =>
          rw [Source.readable_cons_of_ok answer, Source.unreadable_cons_of_ok answer,
            List.length_cons]
          omega
      | error failure =>
          rw [Source.readable_cons_of_error answer, Source.unreadable_cons_of_error answer,
            List.length_cons]
          omega

/-- The part of a progress that tells what was read off the source. -/
structure Reading where
  fetched : List Int
  skipped : List Skipped
  ingested : Nat

/-- The reading after more journals. -/
def Reading.extend (reading : Reading) (source : Source) (journals : List Journal) : Reading where
  fetched := reading.fetched ++ journals.map Journal.id
  skipped := reading.skipped ++ source.unreadable reading.fetched.length journals
  ingested := reading.ingested + (source.readable reading.fetched.length journals).length

theorem Reading.extend_nil (reading : Reading) (source : Source) :
    reading.extend source [] = reading := by
  unfold extend
  rw [List.map_nil, List.append_nil]
  exact congrArg (fun skipped => Reading.mk _ skipped _) (List.append_nil _)

theorem Reading.extend_cons_of_ok {reading : Reading} {source : Source} {journal : Journal}
    {body : Text} (fetched : source.body reading.fetched.length journal.id = .ok body)
    (rest : List Journal) :
    reading.extend source (journal :: rest) =
      Reading.extend ⟨reading.fetched ++ [journal.id], reading.skipped, reading.ingested + 1⟩
        source rest := by
  unfold extend
  rw [Source.unreadable_cons_of_ok fetched, Source.readable_cons_of_ok fetched]
  simp only [List.map_cons, List.append_assoc, List.singleton_append, List.length_append,
    List.length_cons, List.length_nil, Nat.zero_add, Nat.add_assoc, Nat.add_comm 1]

theorem Reading.extend_cons_of_error {reading : Reading} {source : Source} {journal : Journal}
    {failure : Failure}
    (failed : source.body reading.fetched.length journal.id = .error failure)
    (rest : List Journal) :
    reading.extend source (journal :: rest) =
      Reading.extend ⟨reading.fetched ++ [journal.id],
        reading.skipped ++ [⟨journal.id, journal.title, failure.message⟩], reading.ingested⟩
        source rest := by
  unfold extend
  rw [Source.unreadable_cons_of_error failed, Source.readable_cons_of_error failed]
  simp only [List.map_cons, List.append_assoc, List.singleton_append, List.length_append,
    List.length_cons, List.length_nil, Nat.zero_add]

section

variable {σ : Type}

def Progress.reading (progress : Progress σ) : Reading :=
  ⟨progress.fetched, progress.skipped, progress.ingested⟩

variable [ThoughtStore σ]

namespace Progress

theorem reading_persist (progress : Progress σ) (thought : Thought) :
    (progress.persist thought).reading = progress.reading := by
  unfold persist
  dsimp only
  split <;> rfl

/-- Handing thoughts to the store reads nothing. -/
theorem reading_foldl_persist (progress : Progress σ) (thoughts : List Thought) :
    (thoughts.foldl persist progress).reading = progress.reading := by
  induction thoughts generalizing progress with
  | nil => rfl
  | cons thought rest ih => rw [List.foldl_cons, ih, reading_persist]

/-- A body that is taken in counts as one, whether its thoughts are written or not. -/
theorem reading_ingest (taxonomy : Taxonomy) (dryRun : Bool) (progress : Progress σ)
    (journal : Journal) (body : Text) :
    (progress.ingest taxonomy dryRun journal body).reading =
      ⟨progress.fetched, progress.skipped, progress.ingested + 1⟩ := by
  cases dryRun with
  | true => rfl
  | false => exact reading_foldl_persist _ _

/-- What the visits of journals read depends on the source alone. -/
theorem reading_foldl_visit (source : Source) (taxonomy : Taxonomy) (dryRun : Bool)
    (progress : Progress σ) (journals : List Journal) :
    (journals.foldl (visit source taxonomy dryRun) progress).reading =
      progress.reading.extend source journals := by
  induction journals generalizing progress with
  | nil => exact (Reading.extend_nil _ source).symm
  | cons journal rest ih =>
      rw [List.foldl_cons, ih]
      unfold visit
      cases answer : source.body progress.fetched.length journal.id with
      | ok body =>
          rw [reading_ingest, Reading.extend_cons_of_ok answer]
          rfl
      | error failure =>
          rw [Reading.extend_cons_of_error answer]
          rfl

/-! ## What a run counts -/

/-- A visit that writes nothing counts the thoughts of the journal. -/
theorem counts_visit_dry (source : Source) (taxonomy : Taxonomy) (progress : Progress σ)
    (journal : Journal) :
    Counts progress (progress.visit source taxonomy true journal)
      (offered source taxonomy progress.fetched.length [journal]).length [] := by
  unfold visit
  cases answer : source.body progress.fetched.length journal.id with
  | ok body =>
      rw [offered_cons_of_ok answer, offered_nil, List.append_nil]
      exact ⟨rfl, rfl, rfl, rfl⟩
  | error failure =>
      rw [offered_cons_of_error answer]
      exact ⟨rfl, rfl, rfl, rfl⟩

/-- A dry run extracts the offered thoughts and has no outcomes to count. -/
theorem counts_foldl_visit_dry (source : Source) (taxonomy : Taxonomy) (progress : Progress σ)
    (journals : List Journal) :
    Counts progress (journals.foldl (visit source taxonomy true) progress)
      (offered source taxonomy progress.fetched.length journals).length [] := by
  induction journals generalizing progress with
  | nil => exact Counts.refl progress
  | cons journal rest ih =>
      have others := ih (progress.visit source taxonomy true journal)
      rw [fetched_visit, List.length_append, List.length_singleton] at others
      rw [offered_cons, List.length_append]
      exact (counts_visit_dry source taxonomy progress journal).trans others

end Progress

end

/-- Every outcome is exactly one of the three. -/
theorem countP_outcomes (outcomes : List (Except Failure InsertOutcome)) :
    outcomes.countP wasInserted + outcomes.countP wasDuplicate + outcomes.countP hasFailed =
      outcomes.length := by
  induction outcomes with
  | nil => rfl
  | cons outcome rest ih =>
      rw [List.countP_cons, List.countP_cons, List.countP_cons, List.length_cons, ← ih]
      rcases outcome with failure | inserted | duplicate
      all_goals simp only [wasInserted, wasDuplicate, hasFailed, Bool.false_eq_true, ↓reduceIte]
      all_goals omega

/-- The journals of a run are in the order of their titles. -/
theorem selection_ascending (options : Options) (watermark : Text) (index : List Journal) :
    Journal.Ascending (selection options watermark index) := by
  have sorted := Journal.sortByTitle_ascending (index.filter (Journal.isAfter watermark))
  unfold selection
  cases options.limit with
  | none => exact sorted
  | some limit => exact List.Pairwise.sublist (List.take_sublist limit _) sorted

/-! ## Reports -/

section

variable {σ : Type} [ThoughtStore σ]

/-- A report that tells what happened between a store before a run and the end of the run: which
journals it visited, which of them it could read, and what became of their thoughts. -/
structure Report.Accounts (report : Report) (source : Source) (taxonomy : Taxonomy) (dryRun : Bool)
    (before : σ) (ending : Run σ) (index visited : List Journal) : Prop where
  listed : report.journalsListed = index.length
  selected : report.journalsSelected = visited.length
  ascending : Journal.Ascending visited
  fetched : ending.fetched = visited.map Journal.id
  ingested : report.journalsIngested = (source.readable 0 visited).length
  skipped : report.skipped = source.unreadable 0 visited
  balanced : report.journalsSelected = report.journalsIngested + report.skipped.length
  extracted : report.thoughtsExtracted = (offered source taxonomy 0 visited).length
  written : dryRun = false →
    report.thoughtsExtracted =
        report.thoughtsInserted + report.thoughtsDuplicate + report.thoughtsFailed ∧
      ThoughtStore.count ending.store =
        (ThoughtStore.count before).map fun number => number + report.thoughtsInserted
  unwritten : dryRun = true →
    report.thoughtsInserted = 0 ∧ report.thoughtsDuplicate = 0 ∧ report.thoughtsFailed = 0 ∧
      ending.store = before

/-- At its end a run has read the selected journals. -/
theorem reading_finalProgress (source : Source) (taxonomy : Taxonomy) (options : Options)
    (store : σ) (watermark : Text) (index : List Journal) :
    let final := finalProgress source taxonomy options store watermark index
    let visited := selection options watermark index
    final.fetched = visited.map Journal.id ∧ final.skipped = source.unreadable 0 visited ∧
      final.ingested = (source.readable 0 visited).length := by
  intro final visited
  have reading : final.reading = Reading.extend ⟨[], [], 0⟩ source visited :=
    Progress.reading_foldl_visit source taxonomy options.dryRun (Progress.start store) visited
  have ingested := congrArg Reading.ingested reading
  exact ⟨congrArg Reading.fetched reading, congrArg Reading.skipped reading,
    ingested.trans (Nat.zero_add _)⟩

/-- At its end a dry run has counted the extracted thoughts and no outcomes. -/
theorem counts_finalProgress_dry {options : Options} (dry : options.dryRun = true)
    (source : Source) (taxonomy : Taxonomy) (store : σ) (watermark : Text)
    (index : List Journal) :
    Progress.Counts (Progress.start store)
      (finalProgress source taxonomy options store watermark index)
      (offered source taxonomy 0 (selection options watermark index)).length [] := by
  unfold finalProgress
  rw [dry]
  exact Progress.counts_foldl_visit_dry source taxonomy (Progress.start store) _

/-- A run extracts the offered thoughts, whether it writes or not. -/
theorem extracted_finalProgress (source : Source) (taxonomy : Taxonomy) (options : Options)
    (store : σ) (watermark : Text) (index : List Journal) :
    (finalProgress source taxonomy options store watermark index).extracted =
      (offered source taxonomy 0 (selection options watermark index)).length := by
  cases dry : options.dryRun with
  | true =>
      have counts := counts_finalProgress_dry dry source taxonomy store watermark index
      exact counts.extracted.trans (Nat.zero_add _)
  | false =>
      have counts := counts_finalProgress dry source taxonomy store watermark index
      exact counts.extracted.trans (Nat.zero_add _)

/-- Every thought that a writing run extracts is inserted, a duplicate or failed. -/
theorem outcomes_finalProgress {options : Options} (writing : options.dryRun = false)
    (source : Source) (taxonomy : Taxonomy) (store : σ) (watermark : Text)
    (index : List Journal) :
    let final := finalProgress source taxonomy options store watermark index
    final.extracted = final.inserted + final.duplicate + final.failed := by
  intro final
  have counts := counts_finalProgress writing source taxonomy store watermark index
  have inserted := counts.inserted.trans (Nat.zero_add _)
  have duplicate := counts.duplicate.trans (Nat.zero_add _)
  have failed := counts.failed.trans (Nat.zero_add _)
  rw [extracted_finalProgress, inserted, duplicate, failed, countP_outcomes,
    ThoughtStore.length_insertAll]

/-- A writing run adds the thoughts that it counts as inserted to the number of stored ones. -/
theorem count_finalProgress [ThoughtStore.Tallied σ] {options : Options}
    (writing : options.dryRun = false) (source : Source) (taxonomy : Taxonomy) (store : σ)
    (watermark : Text) (index : List Journal) :
    let final := finalProgress source taxonomy options store watermark index
    ThoughtStore.count final.store =
      (ThoughtStore.count store).map fun number => number + final.inserted := by
  intro final
  have counts := counts_finalProgress writing source taxonomy store watermark index
  have inserted := counts.inserted.trans (Nat.zero_add _)
  have handed : final.store = (ThoughtStore.insertAll store
      (offered source taxonomy 0 (selection options watermark index))).2 := by
    change ((selection options watermark index).foldl
      (Progress.visit source taxonomy options.dryRun) (Progress.start store)).store = _
    rw [writing]
    exact Progress.store_foldl_visit source taxonomy (Progress.start store) _
  rw [handed, inserted]
  exact ThoughtStore.count_insertAll store _

/-- At its end a dry run has left the store as it was. -/
theorem store_finalProgress_dry {options : Options} (dry : options.dryRun = true)
    (source : Source) (taxonomy : Taxonomy) (store : σ) (watermark : Text)
    (index : List Journal) :
    (finalProgress source taxonomy options store watermark index).store = store := by
  unfold finalProgress
  rw [dry]
  exact Progress.store_foldl_visit_dry source taxonomy (Progress.start store) _

/-- **The report accounts for everything.** Whatever failed during a run that ends with a report,
the report tells the journals that were asked for and what became of each of them and of each of
their thoughts, and the number of stored thoughts has grown by the insertions that it counts. -/
theorem report_accounts [ThoughtStore.Tallied σ] {source : Source} {taxonomy : Taxonomy}
    {options : Options} {store : σ} {report : Report}
    (reported : (run source taxonomy options store).outcome = .ok report) :
    ∃ index, source.index = .ok index ∧ watermarkFor options store = .ok report.watermark ∧
      report.Accounts source taxonomy options.dryRun store (run source taxonomy options store)
        index (chosen options.limit report.watermark index) := by
  obtain ⟨watermark, index, resolved, listed⟩ := listed_of_reported reported
  have ending := run_of_listed resolved listed taxonomy
  rw [ending] at reported
  obtain rfl := Except.ok.inj reported
  refine ⟨index, listed, resolved, ?_⟩
  obtain ⟨fetched, skipped, ingested⟩ :=
    reading_finalProgress source taxonomy options store watermark index
  have balanced : (selection options watermark index).length =
      (finalProgress source taxonomy options store watermark index).ingested +
        (finalProgress source taxonomy options store watermark index).skipped.length := by
    rw [ingested, skipped, source.length_readable_add_unreadable]
  rw [ending]
  change Report.Accounts _ source taxonomy _ _ _ index (chosen options.limit watermark index)
  rw [← selection_eq_chosen]
  refine ⟨rfl, rfl, selection_ascending .., fetched, ingested, skipped, balanced,
    extracted_finalProgress .., ?_, ?_⟩
  · intro writing
    exact ⟨outcomes_finalProgress writing .., count_finalProgress writing ..⟩
  · intro dry
    have counts := counts_finalProgress_dry dry source taxonomy store watermark index
    exact ⟨counts.inserted, counts.duplicate, counts.failed, store_finalProgress_dry dry ..⟩

/-- Two journals with one title of which one is skipped, a stored thought, a repeated one, and an
insertion that fails. -/
theorem report_accounts_with_failures :
    let source := Source.ofTable
      [⟨5, ['6']⟩, ⟨4, ['4']⟩, ⟨2, ['3']⟩, ⟨3, ['4']⟩, ⟨1, ['2']⟩]
      [(2, "## Area\n- a\n- old\n- b".toList), (3, "## Project\n- b\n- c".toList)]
    let options : Options := ⟨false, false, some 3⟩
    let stored := Thought.compose ['2'] "old".toList .area []
    let failure := Failure.of []
    let plan : FaultPlan :=
      ⟨none, some failure, fun attempt _ => if attempt = 0 then some failure else none⟩
    let store : Faulty Memory := ⟨(Memory.empty.insert stored).2, plan, 0⟩
    ∃ report, (run source ⟨Dictionary.empty⟩ options store).outcome = .ok report ∧
      (report.skipped.map Skipped.id, report.thoughtsExtracted, report.thoughtsInserted,
        report.thoughtsDuplicate, report.thoughtsFailed) = ([4], 5, 2, 2, 1) ∧
      ∃ index, source.index = .ok index ∧
        watermarkFor options store = .ok report.watermark ∧
        report.Accounts source ⟨Dictionary.empty⟩ false store
          (run source ⟨Dictionary.empty⟩ options store) index
          (chosen options.limit report.watermark index) := by
  intro source options stored failure plan store
  exact ⟨_, rfl, by decide +kernel, report_accounts rfl⟩

/-! ## Failing runs -/

/-- Only a run that is not full can fail on its watermark, and it does if the store cannot tell the
latest date. -/
theorem watermarkFor_eq_error_iff {options : Options} {store : σ} {fault : Fault} :
    watermarkFor options store = .error fault ↔
      options.full = false ∧
        ∃ cause, ThoughtStore.latest store = .error cause ∧ fault = .watermarkQuery cause := by
  unfold watermarkFor resolveWatermark
  cases options.full with
  | true => simp only [↓reduceIte, reduceCtorEq, false_and]
  | false =>
      cases answer : ThoughtStore.latest store with
      | ok date =>
          simp only [Bool.false_eq_true, ↓reduceIte, reduceCtorEq, false_and, exists_false,
            and_false]
      | error cause =>
          simp only [Bool.false_eq_true, ↓reduceIte, Except.error.injEq, exists_eq_left',
            true_and]
          exact eq_comm

/-- A full run has a watermark in any case, every other one if the store can tell the latest
date. -/
theorem exists_watermarkFor_iff {options : Options} {store : σ} :
    (∃ watermark, watermarkFor options store = .ok watermark) ↔
      options.full = true ∨ ∃ date, ThoughtStore.latest store = .ok date := by
  unfold watermarkFor resolveWatermark
  cases options.full with
  | true => simp only [↓reduceIte, Except.ok.injEq, exists_eq', true_or]
  | false =>
      cases answer : ThoughtStore.latest store with
      | ok date =>
          simp only [Bool.false_eq_true, ↓reduceIte, Except.ok.injEq, exists_eq', or_true]
      | error cause =>
          simp only [Bool.false_eq_true, ↓reduceIte, reduceCtorEq, exists_false, or_self]

/-- Without a watermark the run ends at once. -/
theorem run_of_unresolved {options : Options} {store : σ} {fault : Fault}
    (unresolved : watermarkFor options store = .error fault) (source : Source)
    (taxonomy : Taxonomy) :
    run source taxonomy options store = ⟨.error fault, [], store⟩ := by
  simp only [run, unresolved]

/-- Without an index the run ends at once. -/
theorem run_of_unlisted {source : Source} {options : Options} {store : σ} {watermark : Text}
    {cause : Failure} (resolved : watermarkFor options store = .ok watermark)
    (unlisted : source.index = .error cause) (taxonomy : Taxonomy) :
    run source taxonomy options store = ⟨.error (.sourceIndex source.name cause), [], store⟩ := by
  simp only [run, resolved, unlisted]

/-- What a run fails with. -/
theorem outcome_run_eq_error_iff {source : Source} {taxonomy : Taxonomy} {options : Options}
    {store : σ} {fault : Fault} :
    (run source taxonomy options store).outcome = .error fault ↔
      watermarkFor options store = .error fault ∨
        (∃ watermark, watermarkFor options store = .ok watermark) ∧
          ∃ cause, source.index = .error cause ∧ fault = .sourceIndex source.name cause := by
  cases resolved : watermarkFor options store with
  | error other =>
      rw [run_of_unresolved resolved]
      simp only [Except.error.injEq, reduceCtorEq, exists_false, false_and, or_false]
  | ok watermark =>
      cases listed : source.index with
      | error cause =>
          rw [run_of_unlisted resolved listed]
          simp only [Except.error.injEq, reduceCtorEq, Except.ok.injEq, exists_eq', true_and,
            exists_eq_left', false_or]
          exact eq_comm
      | ok index =>
          rw [run_of_listed resolved listed]
          simp only [reduceCtorEq, false_and, exists_false, and_false, or_self]

/-- A run that fails has fetched no journal and left the store as it was. -/
theorem untouched_of_failed {source : Source} {taxonomy : Taxonomy} {options : Options} {store : σ}
    {fault : Fault} (failed : (run source taxonomy options store).outcome = .error fault) :
    (run source taxonomy options store).fetched = [] ∧
      (run source taxonomy options store).store = store := by
  rcases outcome_run_eq_error_iff.mp failed with unresolved | ⟨⟨_, resolved⟩, _, unlisted, _⟩
  · rw [run_of_unresolved unresolved]
    exact ⟨rfl, rfl⟩
  · rw [run_of_unlisted resolved unlisted]
    exact ⟨rfl, rfl⟩

/-- A run ends with a report if and only if it has a watermark and an index. -/
theorem exists_report_iff {source : Source} {taxonomy : Taxonomy} {options : Options} {store : σ} :
    (∃ report, (run source taxonomy options store).outcome = .ok report) ↔
      (∃ watermark, watermarkFor options store = .ok watermark) ∧
        ∃ index, source.index = .ok index := by
  constructor
  · rintro ⟨report, reported⟩
    obtain ⟨watermark, index, resolved, listed⟩ := listed_of_reported reported
    exact ⟨⟨watermark, resolved⟩, index, listed⟩
  · rintro ⟨⟨watermark, resolved⟩, index, listed⟩
    exact ⟨_, congrArg Run.outcome (run_of_listed resolved listed taxonomy)⟩

/-- A report is without statistics if and only if the store fails to give them at the end. -/
theorem stats_eq_none_iff {source : Source} {taxonomy : Taxonomy} {options : Options} {store : σ}
    {report : Report} (reported : (run source taxonomy options store).outcome = .ok report) :
    report.stats = none ↔
      ∃ failure, ThoughtStore.stats (run source taxonomy options store).store =
        .error failure := by
  rw [stats_of_reported reported]
  cases ThoughtStore.stats (run source taxonomy options store).store with
  | ok stats => simp only [Except.toOption, reduceCtorEq, exists_false]
  | error failure => exact ⟨fun _ => ⟨failure, rfl⟩, fun _ => rfl⟩

/-- **Two failures are fatal, and they touch nothing.** A run fails exactly when it needs the
watermark and the store does not tell it, whatever source is given, and else when the source does
not list its journals. A run that fails has asked for no body and has left the store, in which every
attempt of an insertion is counted, as it was. Every other run ends with a report, which lacks the
categories exactly when their query fails. -/
theorem run_fails_iff (source : Source) (taxonomy : Taxonomy) (options : Options)
    (store : Faulty σ) :
    let ending := run source taxonomy options store
    (∀ fault, ending.outcome = .error fault ↔
      (options.full = false ∧
        ∃ cause, ThoughtStore.latest store = .error cause ∧ fault = .watermarkQuery cause) ∨
      ((options.full = true ∨ ∃ date, ThoughtStore.latest store = .ok date) ∧
        ∃ cause, source.index = .error cause ∧ fault = .sourceIndex source.name cause)) ∧
    (∀ cause, ending.outcome = .error (.watermarkQuery cause) →
      ∀ other, run other taxonomy options store = ending) ∧
    (∀ fault, ending.outcome = .error fault → ending.fetched = [] ∧ ending.store = store) ∧
    ((∃ report, ending.outcome = .ok report) ↔
      (options.full = true ∨ ∃ date, ThoughtStore.latest store = .ok date) ∧
        ∃ index, source.index = .ok index) ∧
    (∀ report, ending.outcome = .ok report →
      (report.stats = none ↔ ∃ failure, ThoughtStore.stats ending.store = .error failure)) := by
  intro ending
  refine ⟨?_, ?_, fun fault failed => untouched_of_failed failed, ?_,
    fun report reported => stats_eq_none_iff reported⟩
  · intro fault
    rw [← watermarkFor_eq_error_iff, ← exists_watermarkFor_iff]
    exact outcome_run_eq_error_iff
  · intro cause failed other
    rcases outcome_run_eq_error_iff.mp failed with unresolved | ⟨_, _, _, unlike⟩
    · calc run other taxonomy options store
        _ = ⟨.error (.watermarkQuery cause), [], store⟩ := run_of_unresolved unresolved ..
        _ = ending := (run_of_unresolved unresolved ..).symm
    · cases unlike
  · rw [← exists_watermarkFor_iff]
    exact exists_report_iff

end

end Sync

end ThoughtJournal
