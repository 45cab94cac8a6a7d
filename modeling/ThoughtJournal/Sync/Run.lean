import ThoughtJournal.Atomizer
import ThoughtJournal.Sync.Report

/-! # Running a sync

A sync resolves its watermark, asks the source for its index, selects the journals titled after the
watermark, and reads them one at a time, the earliest first: the body is fetched, split into
thoughts, and the thoughts are handed to the store. Neither a body nor a thought that fails ends the
run. What happened so far is kept in a `Progress`.
-/

namespace ThoughtJournal.Sync

variable {σ : Type}

/-- What happened so far in a sync. -/
structure Progress (σ : Type) where
  store : σ
  /-- The journals whose bodies were asked for, in order. -/
  fetched : List Int
  skipped : List Skipped
  ingested : Nat
  extracted : Nat
  inserted : Nat
  duplicate : Nat
  failed : Nat
deriving DecidableEq, Repr

def Progress.start (store : σ) : Progress σ := ⟨store, [], [], 0, 0, 0, 0, 0⟩

variable [ThoughtStore σ]

/-- Hands one thought to the store and counts what becomes of it. -/
def Progress.persist (progress : Progress σ) (thought : Thought) : Progress σ :=
  let result := ThoughtStore.insert progress.store thought
  let progress := { progress with store := result.2 }
  match result.1 with
  | .ok .inserted => { progress with inserted := progress.inserted + 1 }
  | .ok .duplicate => { progress with duplicate := progress.duplicate + 1 }
  | .error _ => { progress with failed := progress.failed + 1 }

/-- Splits a body into thoughts and hands them to the store, unless nothing is to be written. -/
def Progress.ingest (taxonomy : Taxonomy) (dryRun : Bool) (progress : Progress σ)
    (journal : Journal) (body : Text) : Progress σ :=
  let thoughts := taxonomy.atomize journal.title body
  let progress :=
    { progress with
      ingested := progress.ingested + 1
      extracted := progress.extracted + thoughts.length }
  if dryRun then progress else thoughts.foldl Progress.persist progress

/-- Fetches the body of a journal and ingests it; a journal without a body is skipped. -/
def Progress.visit (source : Source) (taxonomy : Taxonomy) (dryRun : Bool) (progress : Progress σ)
    (journal : Journal) : Progress σ :=
  let answer := source.body progress.fetched.length journal.id
  let progress := { progress with fetched := progress.fetched ++ [journal.id] }
  match answer with
  | .ok body => progress.ingest taxonomy dryRun journal body
  | .error failure =>
      let skipped := ⟨journal.id, journal.title, failure.message⟩
      { progress with skipped := progress.skipped ++ [skipped] }

/-- The end of a sync: its report or what kept it from happening, the journals whose bodies were
asked for, and the store afterwards. -/
structure Run (σ : Type) where
  outcome : Except Fault Report
  fetched : List Int
  store : σ

/-- The date after which journals are selected. -/
def resolveWatermark (store : σ) : Except Fault Text :=
  match ThoughtStore.latest store with
  | .ok date => .ok date
  | .error cause => .error (.watermarkQuery cause)

/-- The watermark of a run: the epoch when every journal is considered. -/
def watermarkFor (options : Options) (store : σ) : Except Fault Text :=
  if options.full then .ok epoch else resolveWatermark store

/-- The journals that a run reads, in order. -/
def selection (options : Options) (watermark : Text) (index : List Journal) : List Journal :=
  let selected := Journal.selectDelta watermark index
  match options.limit with
  | some limit => selected.take limit
  | none => selected

def Progress.report (progress : Progress σ) (options : Options) (watermark : Text)
    (listed selected : Nat) : Report where
  watermark := watermark
  journalsListed := listed
  journalsSelected := selected
  journalsIngested := progress.ingested
  skipped := progress.skipped
  thoughtsExtracted := progress.extracted
  thoughtsInserted := progress.inserted
  thoughtsDuplicate := progress.duplicate
  thoughtsFailed := progress.failed
  dryRun := options.dryRun
  stats := (ThoughtStore.stats progress.store).toOption

/-- Runs a sync from a source into a store. -/
def run (source : Source) (taxonomy : Taxonomy) (options : Options) (store : σ) : Run σ :=
  match watermarkFor options store with
  | .error fault => ⟨.error fault, [], store⟩
  | .ok watermark =>
      match source.index with
      | .error cause => ⟨.error (.sourceIndex source.name cause), [], store⟩
      | .ok index =>
          let selected := selection options watermark index
          let progress :=
            selected.foldl (Progress.visit source taxonomy options.dryRun) (Progress.start store)
          ⟨.ok (progress.report options watermark index.length selected.length),
            progress.fetched, progress.store⟩

end ThoughtJournal.Sync
