import ThoughtJournal.Proofs.Session.Answers
import ThoughtJournal.Proofs.Sync.Accounts

/-! # Syncs step by step

Between two of its operations on the store a sync does not own the store: another one may change it. A
`Sync.Worker` is a sync at such a point, and a step takes it to the next one. The first step reads the
watermark and selects, and every later one reads a journal or hands over one thought, so a step uses
the store at most once.

From wherever a worker stands, enough steps bring it to its end
(`Sync.Worker.exists_steps_finished`), and the steps of a worker that is left alone make up a run
(`Sync.Worker.exists_steps_eq_run`).
-/

namespace ThoughtJournal.Sync

/-- A part of what a sync has to do when it knows its selection. -/
inductive Task where
  /-- Fetch the body of a journal and split it. -/
  | read (journal : Journal)
  /-- Hand a thought to the store. -/
  | write (thought : Thought)

/-- A sync between two steps. -/
inductive Worker where
  /-- The watermark is still to be read. -/
  | waiting
  /-- These tasks remain, and this has happened so far. -/
  | working (tasks : List Task) (account : Progress Unit)

/-- Nothing remains to be done. -/
def Worker.isFinished : Worker → Bool
  | .working [] _ => true
  | _ => false

/-- The number of thoughts that were inserted so far. -/
def Worker.inserted : Worker → Nat
  | .waiting => 0
  | .working _ account => account.inserted

section

variable {σ : Type}

def Progress.withStore (account : Progress Unit) (store : σ) : Progress σ :=
  { account with store := store }

variable [ThoughtStore σ]

/-- The thoughts of a journal that are to be written, after a number of bodies was asked for. -/
def handedOver (source : Source) (taxonomy : Taxonomy) (dryRun : Bool) (askedBefore : Nat)
    (journal : Journal) : List Thought :=
  if dryRun then [] else offered source taxonomy askedBefore [journal]

/-- Takes a sync one step further, with the store as it is at that moment. -/
def Worker.step (source : Source) (taxonomy : Taxonomy) (options : Options) (store : σ) :
    Worker → Worker × σ
  | .waiting =>
      match watermarkFor options store, source.index with
      | .ok watermark, .ok index =>
          (.working ((selection options watermark index).map .read) (Progress.start ()), store)
      | _, _ => (.working [] (Progress.start ()), store)
  | .working [] account => (.working [] account, store)
  | .working (.read journal :: rest) account =>
      let thoughts :=
        handedOver source taxonomy options.dryRun account.fetched.length journal
      let account := ((account.withStore store).visit source taxonomy true journal).account
      (.working (thoughts.map .write ++ rest) account, store)
  | .working (.write thought :: rest) account =>
      let progress := (account.withStore store).persist thought
      (.working rest progress.account, progress.store)

/-- Takes a sync that is left alone a number of steps further. -/
def Worker.steps (source : Source) (taxonomy : Taxonomy) (options : Options) :
    Nat → Worker × σ → Worker × σ
  | 0, state => state
  | count + 1, state =>
      steps source taxonomy options count (state.1.step source taxonomy options state.2)

def Progress.complete (source : Source) (taxonomy : Taxonomy) (options : Options)
    (progress : Progress σ) : Task → Progress σ
  | .read journal => progress.visit source taxonomy options.dryRun journal
  | .write thought => progress.persist thought

/-- A visit counts what a dry one counts and then hands over the thoughts. -/
theorem Progress.visit_eq_foldl_persist (source : Source) (taxonomy : Taxonomy) (dryRun : Bool)
    (progress : Progress σ) (journal : Journal) :
    progress.visit source taxonomy dryRun journal =
      (handedOver source taxonomy dryRun progress.fetched.length journal).foldl persist
        (progress.visit source taxonomy true journal) := by
  cases dryRun with
  | true => rfl
  | false =>
      unfold handedOver visit
      cases answer : source.body progress.fetched.length journal.id with
      | ok body =>
          rw [offered_cons_of_ok answer, offered_nil, List.append_nil]
          rfl
      | error failure =>
          rw [offered_cons_of_error answer]
          rfl

/-- Visiting a journal without writing changes the account only. -/
theorem Progress.withStore_account_visit (source : Source) (taxonomy : Taxonomy)
    (account : Progress Unit) (store : σ) (journal : Journal) :
    ((account.withStore store).visit source taxonomy true journal).account.withStore store =
      (account.withStore store).visit source taxonomy true journal := by
  unfold visit
  cases source.body (account.withStore store).fetched.length journal.id with
  | ok body => rfl
  | error failure => rfl

namespace Worker

variable (source : Source) (taxonomy : Taxonomy) (options : Options)

/-- Steps can be taken in two portions. -/
theorem steps_add (first second : Nat) (state : Worker × σ) :
    steps source taxonomy options (first + second) state =
      steps source taxonomy options second (steps source taxonomy options first state) := by
  induction first generalizing state with
  | zero => rw [Nat.zero_add, steps]
  | succ count ih =>
      rw [Nat.succ_add]
      exact ih _

/-- So many steps as there are thoughts hand them over. -/
theorem steps_writes (thoughts : List Thought) (rest : List Task) (account : Progress Unit)
    (store : σ) :
    let after := thoughts.foldl Progress.persist (account.withStore store)
    steps source taxonomy options thoughts.length
        (.working (thoughts.map .write ++ rest) account, store) =
      (.working rest after.account, after.store) := by
  induction thoughts generalizing account store with
  | nil => rfl
  | cons thought others ih =>
      let persisted := (account.withStore store).persist thought
      exact ih persisted.account persisted.store

/-- **Enough steps finish the tasks**, with the effect of doing one after the other at one go. -/
theorem exists_steps_eq_complete (tasks : List Task) (account : Progress Unit) (store : σ) :
    let after := tasks.foldl (Progress.complete source taxonomy options) (account.withStore store)
    ∃ count, steps source taxonomy options count (.working tasks account, store) =
      (.working [] after.account, after.store) := by
  induction tasks generalizing account store with
  | nil => exact ⟨0, rfl⟩
  | cons task rest ih =>
      let after := (account.withStore store).complete source taxonomy options task
      obtain ⟨count, finished⟩ := ih after.account after.store
      cases task with
      | write thought => exact ⟨count + 1, finished⟩
      | read journal =>
          -- The step writes nothing yet: the thoughts of the journal become tasks of their own.
          let thoughts := handedOver source taxonomy options.dryRun account.fetched.length journal
          let counted := (account.withStore store).visit source taxonomy true journal
          have written : thoughts.foldl Progress.persist (counted.account.withStore store) =
              after := by
            rw [Progress.withStore_account_visit]
            exact (Progress.visit_eq_foldl_persist ..).symm
          refine ⟨thoughts.length + count + 1, ?_⟩
          calc steps source taxonomy options (thoughts.length + count + 1)
                (.working (.read journal :: rest) account, store)
              = steps source taxonomy options (thoughts.length + count)
                  (.working (thoughts.map .write ++ rest) counted.account, store) := rfl
            _ = steps source taxonomy options count (.working rest after.account, after.store) := by
                rw [steps_add, steps_writes, written]
            _ = _ := finished

/-- The first step selects, and does not change the store. -/
theorem step_waiting {store : σ} {watermark : Text} {index : List Journal}
    (resolved : watermarkFor options store = .ok watermark) (listed : source.index = .ok index) :
    waiting.step source taxonomy options store =
      (.working ((selection options watermark index).map .read) (Progress.start ()), store) := by
  simp only [step, resolved, listed]

/-- The first step never changes the store, also where it fails. -/
theorem exists_step_waiting (store : σ) :
    ∃ tasks account, waiting.step source taxonomy options store =
      (.working tasks account, store) := by
  unfold step
  dsimp only
  split <;> exact ⟨_, _, rfl⟩

/-- However far a sync is, it can be brought to its end. -/
theorem exists_steps_finished (worker : Worker) (store : σ) :
    ∃ count, (steps source taxonomy options count (worker, store)).1.isFinished = true := by
  cases worker with
  | working tasks account =>
      obtain ⟨count, finished⟩ :=
        exists_steps_eq_complete source taxonomy options tasks account store
      exact ⟨count, by rw [finished]; rfl⟩
  | waiting =>
      obtain ⟨tasks, account, first⟩ := exists_step_waiting source taxonomy options store
      obtain ⟨count, finished⟩ :=
        exists_steps_eq_complete source taxonomy options tasks account store
      refine ⟨count + 1, ?_⟩
      rw [steps, first, finished]
      rfl

/-- **A sync that is left alone** takes the steps of a run: it ends with the store of the run, has
fetched the same journals and has counted what the report tells. -/
theorem exists_steps_eq_run (store : σ) :
    let ending := run source taxonomy options store
    ∃ count account, steps source taxonomy options count (.waiting, store) =
        (.working [] account, ending.store) ∧
      account.fetched = ending.fetched ∧
      ∀ report, ending.outcome = .ok report → ∃ watermark listed selected,
        report = (account.withStore ending.store).report options watermark listed selected := by
  intro ending
  cases resolved : watermarkFor options store with
  | error fault =>
      have stopped : ending = _ := run_of_unresolved resolved source taxonomy
      rw [stopped]
      refine ⟨1, Progress.start (), ?_, rfl, fun report reported => by cases reported⟩
      simp only [steps, step, resolved]
  | ok watermark =>
      cases listed : source.index with
      | error cause =>
          have stopped : ending = _ := run_of_unlisted resolved listed taxonomy
          rw [stopped]
          refine ⟨1, Progress.start (), ?_, rfl, fun report reported => by cases reported⟩
          simp only [steps, step, resolved, listed]
      | ok index =>
          have ended : ending = _ := run_of_listed resolved listed taxonomy
          let selected := selection options watermark index
          let final := finalProgress source taxonomy options store watermark index
          obtain ⟨count, finished⟩ := exists_steps_eq_complete source taxonomy options
            (selected.map .read) (Progress.start ()) store
          rw [List.foldl_map] at finished
          rw [ended]
          refine ⟨count + 1, final.account, ?_, rfl, ?_⟩
          · rw [steps, step_waiting source taxonomy options resolved listed]
            exact finished
          · intro report reported
            exact ⟨watermark, index.length, selected.length, (Except.ok.inj reported).symm⟩

end Worker

end

end ThoughtJournal.Sync
