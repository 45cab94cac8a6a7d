import ThoughtJournal.Proofs.Store.Simulation
import ThoughtJournal.Session

/-! # Sessions on stores that answer alike

A session sees of a store only its answers. So stores that a simulation relates run alike: every
step of a sync keeps the same account of what happened (`Sync.Progress.Alike`), every sync has the
same outcome and fetches the same journals (`ThoughtStore.Simulation.sync`), and every operation of
a session has the same answer (`ThoughtStore.Simulation.session`). In particular the answers of a
session on the database with its schema are those of the session on the store in memory
(`Session.answers_relational_eq_memory`).
-/

namespace ThoughtJournal

namespace Sync

variable {σ τ : Type}

/-- What a progress says apart from the store. -/
def Progress.account (progress : Progress σ) : Progress Unit := { progress with store := () }

/-- Progresses with the same account and related stores. -/
structure Progress.Alike (related : σ → τ → Prop) (left : Progress σ) (right : Progress τ) :
    Prop where
  store : related left.store right.store
  account : left.account = right.account

/-- Runs with the same outcome, the same journals fetched and related stores. -/
structure Run.Alike (related : σ → τ → Prop) (left : Run σ) (right : Run τ) : Prop where
  outcome : left.outcome = right.outcome
  fetched : left.fetched = right.fetched
  store : related left.store right.store

variable {related : σ → τ → Prop}

theorem Progress.Alike.fetched {left : Progress σ} {right : Progress τ}
    (alike : Progress.Alike related left right) : left.fetched = right.fetched :=
  congrArg Progress.fetched alike.account

end Sync

namespace ThoughtStore.Simulation

open Sync

variable {σ τ : Type} [ThoughtStore σ] [ThoughtStore τ] {related : σ → τ → Prop}

/-- Handing over a thought keeps progresses alike. -/
theorem persist (simulation : Simulation related) {left : Progress σ} {right : Progress τ}
    (alike : Progress.Alike related left right) (thought : Thought) :
    Progress.Alike related (left.persist thought) (right.persist thought) := by
  obtain ⟨store, account⟩ := alike
  have after := simulation.insert store thought
  unfold Progress.persist
  dsimp only
  rw [simulation.outcome store thought]
  split
  · have counted := congrArg (fun was => { was with inserted := was.inserted + 1 }) account
    exact ⟨after, counted⟩
  · have counted := congrArg (fun was => { was with duplicate := was.duplicate + 1 }) account
    exact ⟨after, counted⟩
  · have counted := congrArg (fun was => { was with failed := was.failed + 1 }) account
    exact ⟨after, counted⟩

theorem foldl_persist (simulation : Simulation related) {left : Progress σ} {right : Progress τ}
    (alike : Progress.Alike related left right) (thoughts : List Thought) :
    Progress.Alike related (thoughts.foldl Progress.persist left)
      (thoughts.foldl Progress.persist right) := by
  induction thoughts generalizing left right with
  | nil => exact alike
  | cons thought rest ih => exact ih (simulation.persist alike thought)

/-- Taking in a journal keeps progresses alike. -/
theorem ingest (simulation : Simulation related) {left : Progress σ} {right : Progress τ}
    (alike : Progress.Alike related left right) (taxonomy : Taxonomy) (dryRun : Bool)
    (journal : Journal) (body : Text) :
    Progress.Alike related (left.ingest taxonomy dryRun journal body)
      (right.ingest taxonomy dryRun journal body) := by
  have counted : Progress.Alike related
      { left with
        ingested := left.ingested + 1
        extracted := left.extracted + (taxonomy.atomize journal.title body).length }
      { right with
        ingested := right.ingested + 1
        extracted := right.extracted + (taxonomy.atomize journal.title body).length } :=
    ⟨alike.store, congrArg (fun was =>
      { was with
        ingested := was.ingested + 1
        extracted := was.extracted + (taxonomy.atomize journal.title body).length })
      alike.account⟩
  cases dryRun with
  | true => exact counted
  | false => exact simulation.foldl_persist counted _

/-- Visiting a journal keeps progresses alike. -/
theorem visit (simulation : Simulation related) {left : Progress σ} {right : Progress τ}
    (alike : Progress.Alike related left right) (source : Source) (taxonomy : Taxonomy)
    (dryRun : Bool) (journal : Journal) :
    Progress.Alike related (left.visit source taxonomy dryRun journal)
      (right.visit source taxonomy dryRun journal) := by
  have asked : Progress.Alike related { left with fetched := left.fetched ++ [journal.id] }
      { right with fetched := right.fetched ++ [journal.id] } :=
    ⟨alike.store, congrArg (fun was => { was with fetched := was.fetched ++ [journal.id] })
      alike.account⟩
  unfold Progress.visit
  -- Equally many bodies were asked for before, so the source gives both the same answer.
  rw [alike.fetched] at asked ⊢
  dsimp only
  split
  · exact simulation.ingest asked taxonomy dryRun journal _
  · rename_i failure _
    let skip : Skipped := ⟨journal.id, journal.title, failure.message⟩
    have skipped := congrArg
      (fun was : Progress Unit => { was with skipped := was.skipped ++ [skip] }) asked.account
    exact ⟨alike.store, skipped⟩

/-- Visiting journals keeps progresses alike. -/
theorem foldl_visit (simulation : Simulation related) {left : Progress σ} {right : Progress τ}
    (alike : Progress.Alike related left right) (source : Source) (taxonomy : Taxonomy)
    (dryRun : Bool) (journals : List Journal) :
    Progress.Alike related (journals.foldl (Progress.visit source taxonomy dryRun) left)
      (journals.foldl (Progress.visit source taxonomy dryRun) right) := by
  induction journals generalizing left right with
  | nil => exact alike
  | cons journal rest ih => exact ih (simulation.visit alike source taxonomy dryRun journal)

/-- Alike progresses are reported alike. -/
theorem report (simulation : Simulation related) {left : Progress σ} {right : Progress τ}
    (alike : Progress.Alike related left right) (options : Options) (watermark : Text)
    (listed selected : Nat) :
    left.report options watermark listed selected =
      right.report options watermark listed selected := by
  obtain ⟨store, account⟩ := alike
  unfold Progress.report
  rw [simulation.stats store]
  cases left
  cases right
  cases account
  rfl

/-- Related stores have the same watermark, or fail alike. -/
theorem watermark (simulation : Simulation related) {left : σ} {right : τ}
    (alike : related left right) : resolveWatermark left = resolveWatermark right := by
  unfold resolveWatermark
  rw [simulation.latest alike]

theorem sync (simulation : Simulation related) {left : σ} {right : τ} (alike : related left right)
    (source : Source) (taxonomy : Taxonomy) (options : Options) :
    Run.Alike related (Sync.run source taxonomy options left)
      (Sync.run source taxonomy options right) := by
  have watermarks : watermarkFor options left = watermarkFor options right := by
    unfold watermarkFor
    rw [simulation.watermark alike]
  unfold Sync.run
  rw [watermarks]
  split
  · exact ⟨rfl, rfl, alike⟩
  · split
    · exact ⟨rfl, rfl, alike⟩
    · rename_i watermark _ _ index _
      have start : Progress.Alike related (Progress.start left) (Progress.start right) :=
        ⟨alike, rfl⟩
      have final := simulation.foldl_visit start source taxonomy options.dryRun
        (selection options watermark index)
      exact ⟨congrArg Except.ok (simulation.report final _ _ _ _), final.fetched, final.store⟩

open Session

/-- An operation has the same answer on related stores, and leaves them related. -/
theorem step (simulation : Simulation related) {left : Faulty σ} {right : Faulty τ}
    (alike : Faulty.Alike related left right) (taxonomy : Taxonomy) (operation : Operation) :
    (Session.step taxonomy left operation).1 = (Session.step taxonomy right operation).1 ∧
      Faulty.Alike related (Session.step taxonomy left operation).2
        (Session.step taxonomy right operation).2 := by
  have outside := simulation.faulty
  cases operation with
  | insert date content category tags =>
      exact ⟨congrArg Answer.inserted (outside.outcome alike _), outside.insert alike _⟩
  | atomize date body =>
      obtain ⟨outcomes, after⟩ := outside.insertAll alike (taxonomy.atomize date body)
      exact ⟨congrArg Answer.atomized outcomes, after⟩
  | latest => exact ⟨congrArg Answer.latest (outside.latest alike), alike⟩
  | count => exact ⟨congrArg Answer.count (outside.count alike), alike⟩
  | stats => exact ⟨congrArg Answer.stats (outside.stats alike), alike⟩
  | watermark => exact ⟨congrArg Answer.watermark (outside.watermark alike), alike⟩
  | plan plan => exact ⟨rfl, alike.withPlan plan⟩
  | sync source options =>
      obtain ⟨outcome, fetched, after⟩ := outside.sync alike source taxonomy options
      exact ⟨congrArg₂ Answer.synced outcome fetched, after⟩

/-- A session on stores that are alike has the same answers and keeps them alike. -/
theorem session (simulation : Simulation related) {left : Faulty σ} {right : Faulty τ}
    (alike : Faulty.Alike related left right) (taxonomy : Taxonomy)
    (operations : List Operation) :
    (Session.run taxonomy left operations).1 = (Session.run taxonomy right operations).1 ∧
      Faulty.Alike related (Session.run taxonomy left operations).2
        (Session.run taxonomy right operations).2 := by
  induction operations generalizing left right with
  | nil => exact ⟨rfl, alike⟩
  | cons operation rest ih =>
      obtain ⟨answer, after⟩ := simulation.step alike taxonomy operation
      obtain ⟨answers, final⟩ := ih after
      refine ⟨?_, final⟩
      rw [run_cons, run_cons, answer, answers]

end ThoughtStore.Simulation

namespace Session

/-- At the start the two stores have the same rows, none. -/
theorem alike_empty : Faulty.Alike Relational.Holds (Faulty.ofStore Memory.empty)
    (Faulty.ofStore Relational.empty) := ⟨Relational.holds_empty, rfl, rfl⟩

/-- **The two stores answer alike.** Every sequence of operations has the same answers on the empty
database with its schema as on the empty store in memory. -/
theorem answers_relational_eq_memory (taxonomy : Taxonomy) (operations : List Operation) :
    (run taxonomy (Faulty.ofStore Relational.empty) operations).1 =
      (run taxonomy (Faulty.ofStore Memory.empty) operations).1 :=
  (Relational.simulation_holds.session alike_empty taxonomy operations).1.symm

/-- After a session the table has the rows of the store in memory, whose index is in step with
them. -/
theorem holds_run (taxonomy : Taxonomy) (operations : List Operation) :
    Relational.Holds (run taxonomy (Faulty.ofStore Memory.empty) operations).2.inner
      (run taxonomy (Faulty.ofStore Relational.empty) operations).2.inner :=
  (Relational.simulation_holds.session alike_empty taxonomy operations).2.inner

end Session

end ThoughtJournal
