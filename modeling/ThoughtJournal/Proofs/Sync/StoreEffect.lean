import ThoughtJournal.Proofs.Journal.TitleOrder
import ThoughtJournal.Proofs.Store.LatestDate
import ThoughtJournal.Sync.Run

/-! # What a sync does to its store

A sync that writes hands its store the thoughts of the journals whose bodies it could fetch, in the
order of the selection and as one list (`Sync.store_run`), whatever kind of store that is. For a
store in memory whose answers fail by a plan this gives the rows after the sync exactly
(`Sync.rows_run`): the rows from before, followed by the accepted thoughts that add to them.
-/

namespace ThoughtJournal

namespace ThoughtStore

variable {σ : Type} [ThoughtStore σ]

/-- Thoughts handed over in two portions leave the store that they leave together. -/
theorem store_insertAll_append (store : σ) (first second : List Thought) :
    (insertAll store (first ++ second)).2 = (insertAll (insertAll store first).2 second).2 := by
  induction first generalizing store with
  | nil => rfl
  | cons thought rest ih => exact ih (insert store thought).2

end ThoughtStore

namespace Sync

/-! ## The thoughts that a sync offers -/

/-- The titles and bodies of the journals whose bodies can be fetched, in order, when a number of
bodies were asked for before. -/
def Source.readable (source : Source) (askedBefore : Nat) (journals : List Journal) :
    List (Text × Text) :=
  (journals.zipIdx askedBefore).filterMap fun entry =>
    (source.body entry.2 entry.1.id).toOption.map fun body => (entry.1.title, body)

/-- The thoughts of the journals whose bodies can be fetched, in order. -/
def offered (source : Source) (taxonomy : Taxonomy) (askedBefore : Nat) (journals : List Journal) :
    List Thought :=
  (source.readable askedBefore journals).flatMap fun entry => taxonomy.atomize entry.1 entry.2

/-- The journals titled after the watermark, sorted by title without changing the order of equal
titles, and no more of them than the limit. -/
def chosen (limit : Option Nat) (watermark : Text) (index : List Journal) : List Journal :=
  let newer := (index.filter fun journal => watermark < journal.title).mergeSort
    fun first second => !Text.before second.title first.title
  newer.take (limit.getD newer.length)

@[simp] theorem offered_nil (source : Source) (taxonomy : Taxonomy) (askedBefore : Nat) :
    offered source taxonomy askedBefore [] = [] := rfl

/-- A journal whose body can be fetched offers its thoughts in front of those of the others. -/
theorem offered_cons_of_ok {source : Source} {askedBefore : Nat} {journal : Journal} {body : Text}
    (fetched : source.body askedBefore journal.id = .ok body) (taxonomy : Taxonomy)
    (rest : List Journal) :
    offered source taxonomy askedBefore (journal :: rest) =
      taxonomy.atomize journal.title body ++ offered source taxonomy (askedBefore + 1) rest := by
  simp only [offered, Source.readable, List.zipIdx_cons, List.filterMap_cons, fetched,
    Except.toOption, Option.map_some, List.flatMap_cons]

/-- A journal whose body fails offers nothing. -/
theorem offered_cons_of_error {source : Source} {askedBefore : Nat} {journal : Journal}
    {failure : Failure} (failed : source.body askedBefore journal.id = .error failure)
    (taxonomy : Taxonomy) (rest : List Journal) :
    offered source taxonomy askedBefore (journal :: rest) =
      offered source taxonomy (askedBefore + 1) rest := by
  simp only [offered, Source.readable, List.zipIdx_cons, List.filterMap_cons, failed,
    Except.toOption, Option.map_none]

/-- The first journal offers its thoughts before the others do. -/
theorem offered_cons (source : Source) (taxonomy : Taxonomy) (askedBefore : Nat)
    (journal : Journal) (rest : List Journal) :
    offered source taxonomy askedBefore (journal :: rest) =
      offered source taxonomy askedBefore [journal] ++
        offered source taxonomy (askedBefore + 1) rest := by
  cases answer : source.body askedBefore journal.id with
  | ok body =>
      rw [offered_cons_of_ok answer, offered_cons_of_ok answer, offered_nil, List.append_nil]
  | error failure =>
      rw [offered_cons_of_error answer, offered_cons_of_error answer, offered_nil, List.nil_append]

/-- What a run reads is the listed journals after the watermark, sorted and cut at the limit. -/
theorem selection_eq_chosen (options : Options) (watermark : Text) (index : List Journal) :
    selection options watermark index = chosen options.limit watermark index := by
  have newer : Journal.selectDelta watermark index =
      (index.filter fun journal => watermark < journal.title).mergeSort
        fun first second => !Text.before second.title first.title :=
    Journal.sortByTitle_eq_mergeSort _
  unfold selection chosen
  rw [newer]
  cases options.limit with
  | none => exact List.take_length.symm
  | some limit => rfl

/-! ## Step by step -/

section

variable {σ : Type} [ThoughtStore σ]

namespace Progress

theorem store_persist (progress : Progress σ) (thought : Thought) :
    (progress.persist thought).store = (ThoughtStore.insert progress.store thought).2 := by
  unfold persist
  dsimp only
  split <;> rfl

theorem fetched_persist (progress : Progress σ) (thought : Thought) :
    (progress.persist thought).fetched = progress.fetched := by
  unfold persist
  dsimp only
  split <;> rfl

/-- Handing over thoughts inserts them into the store in order. -/
theorem store_foldl_persist (progress : Progress σ) (thoughts : List Thought) :
    (thoughts.foldl persist progress).store =
      (ThoughtStore.insertAll progress.store thoughts).2 := by
  induction thoughts generalizing progress with
  | nil => rfl
  | cons thought rest ih =>
      rw [List.foldl_cons, ih, store_persist]
      rfl

theorem fetched_foldl_persist (progress : Progress σ) (thoughts : List Thought) :
    (thoughts.foldl persist progress).fetched = progress.fetched := by
  induction thoughts generalizing progress with
  | nil => rfl
  | cons thought rest ih => rw [List.foldl_cons, ih, fetched_persist]

/-- Taking in a body inserts its thoughts into the store. -/
theorem store_ingest (taxonomy : Taxonomy) (progress : Progress σ) (journal : Journal)
    (body : Text) :
    (progress.ingest taxonomy false journal body).store =
      (ThoughtStore.insertAll progress.store (taxonomy.atomize journal.title body)).2 :=
  store_foldl_persist _ _

theorem fetched_ingest (taxonomy : Taxonomy) (dryRun : Bool) (progress : Progress σ)
    (journal : Journal) (body : Text) :
    (progress.ingest taxonomy dryRun journal body).fetched = progress.fetched := by
  cases dryRun with
  | true => rfl
  | false => exact fetched_foldl_persist _ _

/-- Every visited journal is asked for once. -/
theorem fetched_visit (source : Source) (taxonomy : Taxonomy) (dryRun : Bool)
    (progress : Progress σ) (journal : Journal) :
    (progress.visit source taxonomy dryRun journal).fetched = progress.fetched ++ [journal.id] := by
  unfold visit
  dsimp only
  split
  · exact fetched_ingest ..
  · rfl

/-- A visit that writes hands the store the thoughts of the journal. -/
theorem store_visit (source : Source) (taxonomy : Taxonomy) (progress : Progress σ)
    (journal : Journal) :
    (progress.visit source taxonomy false journal).store =
      (ThoughtStore.insertAll progress.store
        (offered source taxonomy progress.fetched.length [journal])).2 := by
  unfold visit
  dsimp only
  split
  · rename_i body fetched
    rw [store_ingest, offered_cons_of_ok fetched, offered_nil, List.append_nil]
  · rename_i failure failed
    rw [offered_cons_of_error failed]
    rfl

/-- Visiting journals inserts the offered thoughts into the store. -/
theorem store_foldl_visit (source : Source) (taxonomy : Taxonomy) (progress : Progress σ)
    (journals : List Journal) :
    (journals.foldl (visit source taxonomy false) progress).store =
      (ThoughtStore.insertAll progress.store
        (offered source taxonomy progress.fetched.length journals)).2 := by
  induction journals generalizing progress with
  | nil => rfl
  | cons journal rest ih =>
      rw [List.foldl_cons, ih, store_visit, fetched_visit, List.length_append, List.length_singleton,
        ← ThoughtStore.store_insertAll_append, ← offered_cons]

/-- Visiting journals without writing leaves the store as it is. -/
theorem store_foldl_visit_dry (source : Source) (taxonomy : Taxonomy) (progress : Progress σ)
    (journals : List Journal) :
    (journals.foldl (visit source taxonomy true) progress).store = progress.store := by
  induction journals generalizing progress with
  | nil => rfl
  | cons journal rest ih =>
      rw [List.foldl_cons, ih]
      unfold visit
      dsimp only
      split <;> rfl

end Progress

/-! ## Whole runs -/

/-- The progress of a run at its end. -/
def finalProgress (source : Source) (taxonomy : Taxonomy) (options : Options) (store : σ)
    (watermark : Text) (index : List Journal) : Progress σ :=
  (selection options watermark index).foldl (Progress.visit source taxonomy options.dryRun)
    (Progress.start store)

/-- A run that knows its watermark and its index goes through the selected journals. -/
theorem run_of_listed {source : Source} {options : Options} {store : σ} {watermark : Text}
    {index : List Journal} (resolved : watermarkFor options store = .ok watermark)
    (listed : source.index = .ok index) (taxonomy : Taxonomy) :
    run source taxonomy options store =
      ⟨.ok ((finalProgress source taxonomy options store watermark index).report options watermark
        index.length (selection options watermark index).length),
        (finalProgress source taxonomy options store watermark index).fetched,
        (finalProgress source taxonomy options store watermark index).store⟩ := by
  simp only [run, resolved, listed, finalProgress]

/-- A run that ends with a report knew its watermark and its index. -/
theorem listed_of_reported {source : Source} {taxonomy : Taxonomy} {options : Options} {store : σ}
    {report : Report} (reported : (run source taxonomy options store).outcome = .ok report) :
    ∃ watermark index, watermarkFor options store = .ok watermark ∧ source.index = .ok index := by
  unfold run at reported
  cases resolved : watermarkFor options store with
  | error fault =>
      rw [resolved] at reported
      cases reported
  | ok watermark =>
      cases listed : source.index with
      | error cause =>
          rw [resolved, listed] at reported
          cases reported
      | ok index => exact ⟨watermark, index, rfl, rfl⟩

/-- The report shows the categories of the store after the run. -/
theorem stats_of_reported {source : Source} {taxonomy : Taxonomy} {options : Options} {store : σ}
    {report : Report} (reported : (run source taxonomy options store).outcome = .ok report) :
    report.stats = (ThoughtStore.stats (run source taxonomy options store).store).toOption := by
  obtain ⟨watermark, index, resolved, listed⟩ := listed_of_reported reported
  rw [run_of_listed resolved listed] at reported ⊢
  obtain rfl := Except.ok.inj reported
  rfl

/-- **The effect of a sync on its store.** The store is handed the offered thoughts in order. -/
theorem store_run {source : Source} {options : Options} {store : σ} {watermark : Text}
    {index : List Journal} (resolved : watermarkFor options store = .ok watermark)
    (listed : source.index = .ok index) (writing : options.dryRun = false) (taxonomy : Taxonomy) :
    (run source taxonomy options store).store =
      (ThoughtStore.insertAll store
        (offered source taxonomy 0 (selection options watermark index))).2 := by
  rw [run_of_listed resolved listed]
  simp only [finalProgress, writing]
  exact Progress.store_foldl_visit source taxonomy (Progress.start store) _

/-- Whatever becomes of a run, its store was handed some thoughts. -/
theorem exists_insertAll_run (source : Source) (taxonomy : Taxonomy) (options : Options)
    (store : σ) :
    ∃ thoughts, (run source taxonomy options store).store =
      (ThoughtStore.insertAll store thoughts).2 := by
  cases resolved : watermarkFor options store with
  | error fault => exact ⟨[], by simp only [run, resolved]; rfl⟩
  | ok watermark =>
      cases listed : source.index with
      | error cause => exact ⟨[], by simp only [run, resolved, listed]; rfl⟩
      | ok index =>
          cases dry : options.dryRun with
          | true =>
              refine ⟨[], ?_⟩
              rw [run_of_listed resolved listed]
              simp only [finalProgress, dry]
              exact Progress.store_foldl_visit_dry source taxonomy (Progress.start store) _
          | false => exact ⟨_, store_run resolved listed dry taxonomy⟩

end

/-! ## Stores in memory -/

/-- The watermark of a run over a store in memory. -/
def startingDate (options : Options) (store : Memory) : Text :=
  if options.full then epoch else store.latest

/-- If a failing store tells a watermark it is that of the store inside. -/
theorem watermarkFor_faulty {options : Options} {store : Faulty Memory} {watermark : Text}
    (resolved : watermarkFor options store = .ok watermark) :
    watermark = startingDate options store.inner := by
  unfold watermarkFor resolveWatermark at resolved
  unfold startingDate
  cases full : options.full with
  | true =>
      rw [full] at resolved
      exact (Except.ok.inj resolved).symm
  | false =>
      cases planned : store.plan.latest with
      | some failure =>
          simp only [full, ThoughtStore.latest, Faulty.guarded, planned] at resolved
          cases resolved
      | none =>
          simp only [full, ThoughtStore.latest, Faulty.guarded, planned] at resolved
          exact (Except.ok.inj resolved).symm

/-- Runs keep the index of a store in step with its rows. -/
theorem coherent_run {store : Faulty Memory} (coherent : store.inner.Coherent) (source : Source)
    (taxonomy : Taxonomy) (options : Options) :
    (run source taxonomy options store).store.inner.Coherent := by
  obtain ⟨thoughts, after⟩ := exists_insertAll_run source taxonomy options store
  rw [after, Faulty.inner_insertAll]
  exact coherent.insertAll _

/-- Runs keep the rows of a store in place. -/
theorem rows_prefix_run {store : Faulty Memory} (coherent : store.inner.Coherent)
    (source : Source) (taxonomy : Taxonomy) (options : Options) :
    store.inner.rows <+: (run source taxonomy options store).store.inner.rows := by
  obtain ⟨thoughts, after⟩ := exists_insertAll_run source taxonomy options store
  rw [after, Faulty.inner_insertAll, Memory.rows_insertAll coherent]
  exact List.prefix_append _ _

/-- If the statistics do not fail they are those of the store inside. -/
theorem stats_faulty {store : Faulty Memory} (answered : store.plan.stats = none) :
    ThoughtStore.stats store = .ok store.inner.stats := by
  simp only [ThoughtStore.stats, Faulty.guarded, answered]

/-- **The rows after a sync.** A sync that writes and ends with a report keeps the rows of the store
in place and appends, of the thoughts of the chosen journals whose bodies could be fetched, those
whose insertion did not fail and whose checksum is neither stored nor the checksum of an earlier one
of them. The report shows the categories of these rows unless their query fails. -/
theorem rows_run (source : Source) (taxonomy : Taxonomy) (options : Options)
    (store : Faulty Memory) (coherent : store.inner.Coherent) (writing : options.dryRun = false)
    (report : Report) (reported : (run source taxonomy options store).outcome = .ok report) :
    ∃ index, source.index = .ok index ∧
      let watermark := startingDate options store.inner
      let offered := offered source taxonomy 0 (chosen options.limit watermark index)
      let accepted := store.plan.accepted store.attempts offered
      let after := (run source taxonomy options store).store
      after.inner.rows = store.inner.rows ++ Thought.additions store.inner.rows accepted ∧
        (store.plan.stats = none → report.stats = some after.inner.stats) := by
  obtain ⟨watermark, index, resolved, listed⟩ := listed_of_reported reported
  have after := store_run resolved listed writing taxonomy
  refine ⟨index, listed, ?_, fun answered => ?_⟩
  · rw [after, Faulty.inner_insertAll, Memory.rows_insertAll coherent, selection_eq_chosen,
      watermarkFor_faulty resolved]
  · have kept : (run source taxonomy options store).store.plan = store.plan := by
      rw [after, Faulty.plan_insertAll]
    rw [stats_of_reported reported, stats_faulty (kept ▸ answered)]
    rfl

/-- A source that lists journals and has the bodies of a table; no other body can be fetched. -/
def Source.ofTable (listing : List Journal) (bodies : List (Int × Text)) : Source where
  name := []
  index := .ok listing
  body _ id :=
    match bodies.lookup id with
    | some body => .ok body
    | none => .error (Failure.of [])

/-- A journal without a body, an insertion that fails, a stored thought and a repeated one. -/
theorem rows_run_with_failures :
    let source := Source.ofTable [⟨4, ['5']⟩, ⟨3, ['4']⟩, ⟨2, ['3']⟩, ⟨1, ['2']⟩]
      [(1, "## Area\n- old\n- b\n- c".toList), (3, "## Project\n- c\n- b\n- d".toList)]
    let options : Options := ⟨false, false, some 3⟩
    let stored := Thought.compose ['1', '9', '9'] "old".toList .area []
    let plan : FaultPlan :=
      ⟨none, none, fun attempt _ => if attempt = 8 then some (Failure.of []) else none⟩
    let store : Faulty Memory := ⟨(Memory.empty.insert stored).2, plan, 7⟩
    (run source ⟨Dictionary.empty⟩ options store).store.inner.rows.map Thought.content =
        ["old".toList, "c".toList, "b".toList, "d".toList] ∧
      ∃ report, (run source ⟨Dictionary.empty⟩ options store).outcome = .ok report ∧
        ∃ index, source.index = .ok index ∧
          (run source ⟨Dictionary.empty⟩ options store).store.inner.rows = store.inner.rows ++
            Thought.additions store.inner.rows
              (store.plan.accepted store.attempts (offered source ⟨Dictionary.empty⟩ 0
                (chosen options.limit (startingDate options store.inner) index))) ∧
          (store.plan.stats = none → report.stats =
            some (run source ⟨Dictionary.empty⟩ options store).store.inner.stats) := by
  intro source options stored plan store
  refine ⟨by decide +kernel, _, rfl, ?_⟩
  exact rows_run source ⟨Dictionary.empty⟩ options store (Memory.coherent_empty.insert stored) rfl
    _ rfl

end Sync

end ThoughtJournal
