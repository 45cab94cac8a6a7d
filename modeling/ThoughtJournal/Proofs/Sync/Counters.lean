import ThoughtJournal.Proofs.Sync.StoreEffect

/-! # What a sync counts

A sync counts the thoughts that it extracts and, for each that it hands to its store, what became of
it. Every part of a run adds to the counters what happened in it (`Sync.Progress.Counts`), so the
counters of a whole run are those of the outcomes that the store gave for the offered thoughts
(`Sync.counts_finalProgress`).
-/

namespace ThoughtJournal

namespace ThoughtStore

variable {σ : Type} [ThoughtStore σ]

/-- Thoughts handed over in two portions have the outcomes of the first and then those of the
second. -/
theorem outcomes_insertAll_append (store : σ) (first second : List Thought) :
    (insertAll store (first ++ second)).1 =
      (insertAll store first).1 ++ (insertAll (insertAll store first).2 second).1 := by
  induction first generalizing store with
  | nil => rfl
  | cons thought rest ih => exact congrArg _ (ih (insert store thought).2)

end ThoughtStore

namespace Sync

def wasInserted : Except Failure InsertOutcome → Bool
  | .ok .inserted => true
  | _ => false

def wasDuplicate : Except Failure InsertOutcome → Bool
  | .ok .duplicate => true
  | _ => false

def hasFailed : Except Failure InsertOutcome → Bool
  | .ok _ => false
  | .error _ => true

variable {σ : Type}

namespace Progress

/-- Between two points of a run so many thoughts were extracted, and the insertions had these
outcomes. -/
structure Counts (before after : Progress σ) (extracted : Nat)
    (outcomes : List (Except Failure InsertOutcome)) : Prop where
  extracted : after.extracted = before.extracted + extracted
  inserted : after.inserted = before.inserted + outcomes.countP wasInserted
  duplicate : after.duplicate = before.duplicate + outcomes.countP wasDuplicate
  failed : after.failed = before.failed + outcomes.countP hasFailed

theorem Counts.refl (progress : Progress σ) : Counts progress progress 0 [] :=
  ⟨rfl, rfl, rfl, rfl⟩

/-- What happens in two parts is counted together. -/
theorem Counts.trans {first second third : Progress σ} {earlier later : Nat}
    {before after : List (Except Failure InsertOutcome)} (left : Counts first second earlier before)
    (right : Counts second third later after) :
    Counts first third (earlier + later) (before ++ after) where
  extracted := by rw [right.extracted, left.extracted, Nat.add_assoc]
  inserted := by rw [right.inserted, left.inserted, List.countP_append, Nat.add_assoc]
  duplicate := by rw [right.duplicate, left.duplicate, List.countP_append, Nat.add_assoc]
  failed := by rw [right.failed, left.failed, List.countP_append, Nat.add_assoc]

variable [ThoughtStore σ]

theorem counts_persist (progress : Progress σ) (thought : Thought) :
    Counts progress (progress.persist thought) 0
      [(ThoughtStore.insert progress.store thought).1] := by
  unfold persist
  dsimp only
  split
  · rename_i outcome
    rw [outcome]
    exact ⟨rfl, rfl, rfl, rfl⟩
  · rename_i outcome
    rw [outcome]
    exact ⟨rfl, rfl, rfl, rfl⟩
  · rename_i failure outcome
    rw [outcome]
    exact ⟨rfl, rfl, rfl, rfl⟩

/-- Handing over thoughts counts the outcome of each. -/
theorem counts_foldl_persist (progress : Progress σ) (thoughts : List Thought) :
    Counts progress (thoughts.foldl persist progress) 0
      (ThoughtStore.insertAll progress.store thoughts).1 := by
  induction thoughts generalizing progress with
  | nil => exact Counts.refl progress
  | cons thought rest ih =>
      have others := ih (progress.persist thought)
      rw [store_persist] at others
      exact (counts_persist progress thought).trans others

/-- Taking in a body counts its thoughts and the outcome of each. -/
theorem counts_ingest (taxonomy : Taxonomy) (progress : Progress σ) (journal : Journal)
    (body : Text) :
    Counts progress (progress.ingest taxonomy false journal body)
      (taxonomy.atomize journal.title body).length
      (ThoughtStore.insertAll progress.store (taxonomy.atomize journal.title body)).1 := by
  have persisted := counts_foldl_persist
    { progress with
      ingested := progress.ingested + 1
      extracted := progress.extracted + (taxonomy.atomize journal.title body).length }
    (taxonomy.atomize journal.title body)
  exact ⟨persisted.extracted, persisted.inserted, persisted.duplicate, persisted.failed⟩

/-- A visit counts the thoughts of the journal and the outcomes of handing them over. -/
theorem counts_visit (source : Source) (taxonomy : Taxonomy) (progress : Progress σ)
    (journal : Journal) :
    Counts progress (progress.visit source taxonomy false journal)
      (offered source taxonomy progress.fetched.length [journal]).length
      (ThoughtStore.insertAll progress.store
        (offered source taxonomy progress.fetched.length [journal])).1 := by
  unfold visit
  dsimp only
  split
  · rename_i body fetched
    rw [offered_cons_of_ok fetched, offered_nil, List.append_nil]
    have ingested := counts_ingest taxonomy
      { progress with fetched := progress.fetched ++ [journal.id] } journal body
    exact ⟨ingested.extracted, ingested.inserted, ingested.duplicate, ingested.failed⟩
  · rename_i failure failed
    rw [offered_cons_of_error failed]
    exact ⟨rfl, rfl, rfl, rfl⟩

/-- Visiting journals counts the offered thoughts and the outcome of each. -/
theorem counts_foldl_visit (source : Source) (taxonomy : Taxonomy) (progress : Progress σ)
    (journals : List Journal) :
    Counts progress (journals.foldl (visit source taxonomy false) progress)
      (offered source taxonomy progress.fetched.length journals).length
      (ThoughtStore.insertAll progress.store
        (offered source taxonomy progress.fetched.length journals)).1 := by
  induction journals generalizing progress with
  | nil => exact Counts.refl progress
  | cons journal rest ih =>
      have others := ih (progress.visit source taxonomy false journal)
      rw [store_visit, fetched_visit, List.length_append, List.length_singleton] at others
      rw [offered_cons, List.length_append, ThoughtStore.outcomes_insertAll_append]
      exact (counts_visit source taxonomy progress journal).trans others

end Progress

variable [ThoughtStore σ]

/-- **What a whole run counts**: the offered thoughts and the outcomes of handing them over. -/
theorem counts_finalProgress {options : Options} (writing : options.dryRun = false)
    (source : Source) (taxonomy : Taxonomy) (store : σ) (watermark : Text)
    (index : List Journal) :
    Progress.Counts (Progress.start store)
      (finalProgress source taxonomy options store watermark index)
      (offered source taxonomy 0 (selection options watermark index)).length
      (ThoughtStore.insertAll store
        (offered source taxonomy 0 (selection options watermark index))).1 := by
  unfold finalProgress
  rw [writing]
  exact Progress.counts_foldl_visit source taxonomy (Progress.start store) _

end Sync

end ThoughtJournal
