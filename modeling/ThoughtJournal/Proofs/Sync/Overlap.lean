import ThoughtJournal.Proofs.Sync.Steps
import ThoughtJournal.Proofs.Sync.Timeline

/-! # Syncs that overlap

Two syncs share a store and take their steps in any order, so either can read its watermark when the
other one has written some of its thoughts, and their insertions can alternate. What is pending at the
start is all that either of them ever writes, and from the first step on every pending thought is
stored or still to be handed over by one of them (`Sync.Overlap.Sound`). Wherever they are, both can
still be brought to their end (`Sync.Overlap.exists_run_finished`); and then the store holds the
checksums that one sync alone leaves, each in one row, and the new rows are those that the two have
counted (`Sync.checksums_after_overlap`). The database with the same rows takes the same steps.
-/

namespace ThoughtJournal

namespace Sync

/-- Whose turn it is. -/
inductive Turn where
  | first
  | second
deriving DecidableEq, Repr

/-- Two syncs on one store. -/
structure Overlap (σ : Type) where
  store : σ
  first : Worker
  second : Worker

namespace Overlap

variable {σ : Type}

/-- Neither sync has read its watermark. -/
def start (store : σ) : Overlap σ := ⟨store, .waiting, .waiting⟩

def isFinished (overlap : Overlap σ) : Bool :=
  overlap.first.isFinished && overlap.second.isFinished

/-- The same overlap with the syncs in the other order. -/
def swap (overlap : Overlap σ) : Overlap σ := ⟨overlap.store, overlap.second, overlap.first⟩

variable [ThoughtStore σ]

/-- Lets one of the syncs take a step. -/
def turn (source : Source) (taxonomy : Taxonomy) (options : Options) (overlap : Overlap σ) :
    Turn → Overlap σ
  | .first =>
      let after := overlap.first.step source taxonomy options overlap.store
      ⟨after.2, after.1, overlap.second⟩
  | .second =>
      let after := overlap.second.step source taxonomy options overlap.store
      ⟨after.2, overlap.first, after.1⟩

/-- Lets the syncs take their steps in the order of the turns. -/
def run (source : Source) (taxonomy : Taxonomy) (options : Options) (overlap : Overlap σ)
    (turns : List Turn) : Overlap σ :=
  turns.foldl (turn source taxonomy options) overlap

/-- A step of the second sync is one of the first with the two exchanged. -/
theorem turn_second (source : Source) (taxonomy : Taxonomy) (options : Options)
    (overlap : Overlap σ) :
    overlap.turn source taxonomy options .second =
      (overlap.swap.turn source taxonomy options .first).swap := rfl

end Overlap

/-! ## Pending thoughts -/

section

variable (taxonomy : Taxonomy) (bodies : Int → Text)

/-- The thoughts that a task hands over. -/
def Task.owed : Task → List Thought
  | .read journal => taxonomy.atomize journal.title (bodies journal.id)
  | .write thought => [thought]

/-- The thoughts that a sync still hands over, as far as it knows. -/
def Worker.owed : Worker → List Thought
  | .waiting => []
  | .working tasks _ => tasks.flatMap (Task.owed taxonomy bodies)

/-- A task reads one of the journals or writes one of their thoughts. -/
def Task.IsAbout (journals : List Journal) : Task → Prop
  | .read journal => journal ∈ journals
  | .write thought => thought ∈ thoughtsOf taxonomy bodies journals

def Worker.IsAbout (journals : List Journal) : Worker → Prop
  | .waiting => True
  | .working tasks _ => ∀ task ∈ tasks, task.IsAbout taxonomy bodies journals

/-- What a step of a sync does: it appends thoughts of the journals and counts them, and what it owed
is stored now or still owed. -/
structure Worker.Advances (journals : List Journal) (worker : Worker) (store : Memory)
    (after : Worker × Memory) : Prop where
  coherent : after.2.Coherent
  appends : ∃ added, after.2.rows = store.rows ++ added ∧
    after.1.inserted = worker.inserted + added.length ∧
    ∀ row ∈ added, row ∈ thoughtsOf taxonomy bodies journals
  isAbout : after.1.IsAbout taxonomy bodies journals
  settles : ∀ sum ∈ (worker.owed taxonomy bodies).map Thought.checksum,
    sum ∈ after.2.rows.map Thought.checksum ∨
      sum ∈ (after.1.owed taxonomy bodies).map Thought.checksum

/-- All that two syncs write was pending for the store `base` from which they started, and after the
first step whatever is not stored of it is owed by one of them. -/
structure Overlap.Sound (listing : List Journal) (base : Memory) (overlap : Overlap Memory) :
    Prop where
  coherent : overlap.store.Coherent
  appends : ∃ added, overlap.store.rows = base.rows ++ added ∧
    added.length = overlap.first.inserted + overlap.second.inserted ∧
    ∀ row ∈ added,
      row ∈ thoughtsOf taxonomy bodies (Journal.selectDelta base.latest listing)
  first : overlap.first.IsAbout taxonomy bodies (Journal.selectDelta base.latest listing)
  second : overlap.second.IsAbout taxonomy bodies (Journal.selectDelta base.latest listing)
  covers : overlap = Overlap.start base ∨
    ∀ sum ∈ (thoughtsOf taxonomy bodies
        (Journal.selectDelta base.latest listing)).map Thought.checksum,
      sum ∈ overlap.store.rows.map Thought.checksum ∨
        sum ∈ (overlap.first.owed taxonomy bodies).map Thought.checksum ∨
        sum ∈ (overlap.second.owed taxonomy bodies).map Thought.checksum

end

section

variable {source : Source} {taxonomy : Taxonomy} {listing : List Journal} {bodies : Int → Text}
variable {base : Memory}

/-- A sync that has still to read journals owes all their thoughts. -/
theorem owed_reads (journals : List Journal) (account : Progress Unit) :
    (Worker.working (journals.map .read) account).owed taxonomy bodies =
      thoughtsOf taxonomy bodies journals := by
  exact List.flatMap_map ..

theorem flatMap_owed_writes (thoughts : List Thought) :
    (thoughts.map Task.write).flatMap (Task.owed taxonomy bodies) = thoughts := by
  rw [List.flatMap_map]
  exact List.flatMap_singleton' thoughts

theorem mem_thoughtsOf {journals : List Journal} {journal : Journal} (member : journal ∈ journals)
    {thought : Thought} (extracted : thought ∈ taxonomy.atomize journal.title (bodies journal.id)) :
    thought ∈ thoughtsOf taxonomy bodies journals :=
  List.mem_flatMap.mpr ⟨journal, member, extracted⟩

/-! ## One step -/

namespace Worker

/-- A step that leaves the store as it is. -/
theorem advances_of_unchanged {store : Memory} (coherent : store.Coherent)
    {journals : List Journal} {worker next : Worker} (inserted : next.inserted = worker.inserted)
    (isAbout : next.IsAbout taxonomy bodies journals)
    (settles : ∀ sum ∈ (worker.owed taxonomy bodies).map Thought.checksum,
      sum ∈ store.rows.map Thought.checksum ∨
        sum ∈ (next.owed taxonomy bodies).map Thought.checksum) :
    worker.Advances taxonomy bodies journals store (next, store) where
  coherent := coherent
  appends := ⟨[], (List.append_nil _).symm, inserted, fun _ member => absurd member List.not_mem_nil⟩
  isAbout := isAbout
  settles := settles

/-- With a source that serves everything the first step selects what is titled after the latest
date. -/
theorem step_waiting_served (served : source.Serves listing bodies) (store : Memory) :
    waiting.step source taxonomy .incremental store =
      (.working ((Journal.selectDelta store.latest listing).map .read) (Progress.start ()), store) :=
  step_waiting source taxonomy .incremental (watermarkFor_memory .incremental store) served.index

/-- Selecting advances a sync on the pending journals, and writes nothing. -/
theorem advances_waiting (served : source.Serves listing bodies) {store : Memory}
    (coherent : store.Coherent) {journals : List Journal}
    (pending : ∀ journal ∈ Journal.selectDelta store.latest listing, journal ∈ journals) :
    waiting.Advances taxonomy bodies journals store
      (waiting.step source taxonomy .incremental store) := by
  rw [step_waiting_served served]
  refine advances_of_unchanged coherent rfl ?_ fun _ owed => absurd owed List.not_mem_nil
  intro task member
  obtain ⟨journal, selected, rfl⟩ := List.mem_map.mp member
  exact pending journal selected

/-- A journal that is read makes way for its thoughts. -/
theorem step_read_served (served : source.Serves listing bodies) {journal : Journal}
    (listed : journal ∈ listing) (rest : List Task) (account : Progress Unit) (store : Memory) :
    ∃ counted : Progress Unit, counted.inserted = account.inserted ∧
      (working (.read journal :: rest) account).step source taxonomy .incremental store =
        (.working ((taxonomy.atomize journal.title (bodies journal.id)).map .write ++ rest) counted,
          store) := by
  have counts := Progress.counts_visit_dry source taxonomy (account.withStore store) journal
  have handed : handedOver source taxonomy false account.fetched.length journal =
      taxonomy.atomize journal.title (bodies journal.id) := by
    change offered source taxonomy account.fetched.length [journal] = _
    rw [offered_cons_of_ok (served.body _ journal listed), offered_nil, List.append_nil]
  refine ⟨((account.withStore store).visit source taxonomy true journal).account,
    counts.inserted, ?_⟩
  rw [← handed]
  rfl

/-- Reading a journal advances a sync: it owes the thoughts of the journal as before, and writes
nothing. -/
theorem advances_read (served : source.Serves listing bodies) {store : Memory}
    (coherent : store.Coherent) {journals : List Journal} {journal : Journal} {rest : List Task}
    {account : Progress Unit} (listed : journal ∈ listing)
    (isAbout : (working (.read journal :: rest) account).IsAbout taxonomy bodies journals) :
    (working (.read journal :: rest) account).Advances taxonomy bodies journals store
      ((working (.read journal :: rest) account).step source taxonomy .incremental store) := by
  obtain ⟨counted, inserted, after⟩ := step_read_served served listed rest account store
  rw [after]
  refine advances_of_unchanged coherent inserted ?_ ?_
  · intro task member
    rcases List.mem_append.mp member with written | later
    · obtain ⟨thought, extracted, rfl⟩ := List.mem_map.mp written
      exact mem_thoughtsOf (isAbout (.read journal) List.mem_cons_self) extracted
    · exact isAbout task (List.mem_cons_of_mem _ later)
  · intro sum member
    refine Or.inr ?_
    have owed : (working ((taxonomy.atomize journal.title (bodies journal.id)).map .write ++ rest)
        counted).owed taxonomy bodies =
          (working (.read journal :: rest) account).owed taxonomy bodies := by
      simp only [Worker.owed, List.flatMap_append, List.flatMap_cons, flatMap_owed_writes]
      rfl
    rwa [owed]

/-- A thought whose checksum is stored is counted as a duplicate. -/
theorem step_write_of_taken {store : Memory} {thought : Thought}
    (taken : thought.checksum ∈ store.checksums) (rest : List Task) (account : Progress Unit) :
    (working (.write thought :: rest) account).step source taxonomy .incremental store =
      (.working rest { account with duplicate := account.duplicate + 1 }, store) := by
  simp only [step, Progress.persist, Progress.withStore, ThoughtStore.insert,
    Memory.insert_of_taken taken]
  rfl

/-- A thought with a new checksum is stored and counted as inserted. -/
theorem step_write_of_free {store : Memory} {thought : Thought}
    (free : thought.checksum ∉ store.checksums) (rest : List Task) (account : Progress Unit) :
    (working (.write thought :: rest) account).step source taxonomy .incremental store =
      (.working rest { account with inserted := account.inserted + 1 },
        (store.insert thought).2) := by
  simp only [step, Progress.persist, Progress.withStore, ThoughtStore.insert,
    Memory.insert_of_free free]
  rfl

/-- Writing a thought advances a sync: the checksum is stored afterwards, and owed no longer. -/
theorem advances_write {store : Memory} (coherent : store.Coherent) {journals : List Journal}
    {thought : Thought} {rest : List Task} {account : Progress Unit}
    (isAbout : (working (.write thought :: rest) account).IsAbout taxonomy bodies journals) :
    (working (.write thought :: rest) account).Advances taxonomy bodies journals store
      ((working (.write thought :: rest) account).step source taxonomy .incremental store) := by
  have others : ∀ task ∈ rest, task.IsAbout taxonomy bodies journals :=
    fun task member => isAbout task (List.mem_cons_of_mem _ member)
  -- The thought is no longer owed, so its checksum has to be stored now.
  have settles {after : Memory} {counted : Progress Unit}
      (stored : thought.checksum ∈ after.rows.map Thought.checksum) :
      ∀ sum ∈ ((working (.write thought :: rest) account).owed taxonomy bodies).map
          Thought.checksum,
        sum ∈ after.rows.map Thought.checksum ∨
          sum ∈ ((working rest counted).owed taxonomy bodies).map Thought.checksum := by
    intro sum member
    rcases List.mem_cons.mp member with rfl | owed
    · exact Or.inl stored
    · exact Or.inr owed
  by_cases taken : thought.checksum ∈ store.checksums
  · rw [step_write_of_taken taken]
    exact advances_of_unchanged coherent rfl others (settles ((coherent.indexed _).mp taken))
  · rw [step_write_of_free taken]
    have rows : (store.insert thought).2.rows = store.rows ++ [thought] :=
      congrArg (fun result => result.2.rows) (Memory.insert_of_free taken)
    refine ⟨coherent.insert thought, ⟨[thought], rows, rfl, ?_⟩, others, settles ?_⟩
    · intro row member
      rw [List.mem_singleton.mp member]
      exact isAbout (.write thought) List.mem_cons_self
    · rw [rows]
      exact List.mem_map_of_mem (List.mem_append_right _ List.mem_cons_self)

/-- **One step of a sync** whose journals are listed and include those after the latest date. -/
theorem advances_step (served : source.Serves listing bodies) {store : Memory}
    (coherent : store.Coherent) {journals : List Journal}
    (listed : ∀ journal ∈ journals, journal ∈ listing)
    (pending : ∀ journal ∈ Journal.selectDelta store.latest listing, journal ∈ journals)
    {worker : Worker} (isAbout : worker.IsAbout taxonomy bodies journals) :
    worker.Advances taxonomy bodies journals store
      (worker.step source taxonomy .incremental store) := by
  cases worker with
  | waiting => exact advances_waiting served coherent pending
  | working tasks account =>
      cases tasks with
      | nil =>
          exact advances_of_unchanged coherent rfl isAbout
            fun _ owed => absurd owed List.not_mem_nil
      | cons task rest =>
          cases task with
          | read journal =>
              exact advances_read served coherent
                (listed journal (isAbout (.read journal) List.mem_cons_self)) isAbout
          | write thought => exact advances_write coherent isAbout

end Worker

/-! ## Turns -/

namespace Overlap

/-- At the start nothing was added, and nothing is owed yet. -/
theorem sound_start (taxonomy : Taxonomy) (bodies : Int → Text) (listing : List Journal)
    (coherent : base.Coherent) : (start base).Sound taxonomy bodies listing base where
  coherent := coherent
  appends := ⟨[], (List.append_nil _).symm, rfl, fun _ member => by cases member⟩
  first := True.intro
  second := True.intro
  covers := Or.inl rfl

variable {overlap : Overlap Memory}

/-- It makes no difference which of the two syncs is called the first. -/
theorem Sound.swap (sound : overlap.Sound taxonomy bodies listing base) :
    overlap.swap.Sound taxonomy bodies listing base where
  coherent := sound.coherent
  appends := by
    obtain ⟨added, rows, counted, pending⟩ := sound.appends
    exact ⟨added, rows, counted.trans (Nat.add_comm _ _), pending⟩
  first := sound.second
  second := sound.first
  covers := by
    rcases sound.covers with rfl | covered
    · exact Or.inl rfl
    · exact Or.inr fun sum member => (covered sum member).imp_right Or.symm

/-- What is newer than the latest date at any moment was pending at the start. -/
theorem Sound.pending (sound : overlap.Sound taxonomy bodies listing base) :
    ∀ journal ∈ Journal.selectDelta overlap.store.latest listing,
      journal ∈ Journal.selectDelta base.latest listing := by
  obtain ⟨added, rows, _, pending⟩ := sound.appends
  have notBefore : ¬ overlap.store.latest < base.latest := by
    apply Memory.not_latest_lt_of_rows rows
    intro row member
    obtain ⟨journal, selected, dated⟩ := exists_title_of_mem_thoughtsOf (pending row member)
    exact dated ▸ (mem_selectDelta.mp selected).2
  intro journal selected
  obtain ⟨listed, newer⟩ := mem_selectDelta.mp selected
  exact mem_selectDelta.mpr ⟨listed, Text.lt_of_not_lt_of_lt notBefore newer⟩

/-- A step of the first sync keeps the overlap sound. -/
theorem Sound.turn_first (sound : overlap.Sound taxonomy bodies listing base)
    (served : source.Serves listing bodies) :
    (overlap.turn source taxonomy .incremental .first).Sound taxonomy bodies listing base := by
  have advances := Worker.advances_step served sound.coherent
    (fun journal member => (mem_selectDelta.mp member).1) sound.pending sound.first
  obtain ⟨more, appended, counted, pending⟩ := advances.appends
  refine ⟨advances.coherent, ?_, advances.isAbout, sound.second, Or.inr ?_⟩
  · obtain ⟨added, rows, before, pendingBefore⟩ := sound.appends
    refine ⟨added ++ more, ?_, ?_, ?_⟩
    · exact appended.trans (by rw [rows, List.append_assoc])
    · change (added ++ more).length =
        (overlap.first.step source taxonomy .incremental overlap.store).1.inserted +
          overlap.second.inserted
      rw [counted, List.length_append]
      omega
    · intro row member
      exact (List.mem_append.mp member).elim (pendingBefore row) (pending row)
  · intro sum member
    rcases sound.covers with rfl | covered
    · refine Or.inr (Or.inl ?_)
      change sum ∈ ((Worker.waiting.step source taxonomy .incremental base).1.owed
        taxonomy bodies).map Thought.checksum
      rwa [Worker.step_waiting_served served, owed_reads]
    · rcases covered sum member with stored | owed | others
      · refine Or.inl ?_
        change sum ∈ (overlap.first.step source taxonomy .incremental
          overlap.store).2.rows.map Thought.checksum
        rw [appended, List.map_append]
        exact List.mem_append_left _ stored
      · exact (advances.settles sum owed).imp_right Or.inl
      · exact Or.inr (Or.inr others)

/-- A step of either sync keeps the overlap sound. -/
theorem Sound.turn (sound : overlap.Sound taxonomy bodies listing base)
    (served : source.Serves listing bodies) (turn : Turn) :
    (overlap.turn source taxonomy .incremental turn).Sound taxonomy bodies listing base := by
  cases turn with
  | first => exact sound.turn_first served
  | second =>
      rw [turn_second]
      exact (sound.swap.turn_first served).swap

/-- However the syncs take their turns, the overlap stays sound. -/
theorem Sound.run (sound : overlap.Sound taxonomy bodies listing base)
    (served : source.Serves listing bodies) (turns : List Turn) :
    (overlap.run source taxonomy .incremental turns).Sound taxonomy bodies listing base := by
  induction turns generalizing overlap with
  | nil => exact sound
  | cons turn rest ih => exact ih (sound.turn served turn)

end Overlap

end

/-! ## Stores that answer alike -/

/-- Overlaps of the same syncs at the same points on related stores. -/
structure Overlap.Alike {σ τ : Type} (related : σ → τ → Prop) (left : Overlap σ)
    (right : Overlap τ) : Prop where
  store : related left.store right.store
  first : left.first = right.first
  second : left.second = right.second

end Sync

namespace ThoughtStore.Simulation

open Sync

variable {σ τ : Type} [ThoughtStore σ] [ThoughtStore τ] {related : σ → τ → Prop}

/-- A step leads a sync to the same point on related stores, and leaves them related. -/
theorem step_worker (simulation : Simulation related) {left : σ} {right : τ}
    (alike : related left right) (source : Source) (taxonomy : Taxonomy) (options : Options)
    (worker : Worker) :
    (worker.step source taxonomy options left).1 = (worker.step source taxonomy options right).1 ∧
      related (worker.step source taxonomy options left).2
        (worker.step source taxonomy options right).2 := by
  cases worker with
  | waiting =>
      have watermarks : watermarkFor options left = watermarkFor options right := by
        unfold watermarkFor
        rw [simulation.watermark alike]
      unfold Worker.step
      rw [watermarks]
      dsimp only
      split <;> exact ⟨rfl, alike⟩
  | working tasks account =>
      have accounts : Progress.Alike related (account.withStore left) (account.withStore right) :=
        ⟨alike, rfl⟩
      rcases tasks with _ | ⟨journal | thought, rest⟩
      · exact ⟨rfl, alike⟩
      · have counted := simulation.visit accounts source taxonomy true journal
        exact ⟨congrArg (Worker.working _) counted.account, alike⟩
      · have persisted := simulation.persist accounts thought
        exact ⟨congrArg (Worker.working rest) persisted.account, persisted.store⟩

/-- A turn leaves two overlaps alike. -/
theorem turn (simulation : Simulation related) {left : Overlap σ} {right : Overlap τ}
    (alike : Overlap.Alike related left right) (source : Source) (taxonomy : Taxonomy)
    (options : Options) (turn : Turn) :
    Overlap.Alike related (left.turn source taxonomy options turn)
      (right.turn source taxonomy options turn) := by
  obtain ⟨store, first, second⟩ := alike
  unfold Overlap.turn
  rw [first, second]
  cases turn with
  | first =>
      obtain ⟨worker, after⟩ := simulation.step_worker store source taxonomy options right.first
      exact ⟨after, worker, rfl⟩
  | second =>
      obtain ⟨worker, after⟩ := simulation.step_worker store source taxonomy options right.second
      exact ⟨after, rfl, worker⟩

/-- Turns in the same order leave two overlaps alike. -/
theorem overlap (simulation : Simulation related) {left : Overlap σ} {right : Overlap τ}
    (alike : Overlap.Alike related left right) (source : Source) (taxonomy : Taxonomy)
    (options : Options) (turns : List Turn) :
    Overlap.Alike related (left.run source taxonomy options turns)
      (right.run source taxonomy options turns) := by
  induction turns generalizing left right with
  | nil => exact alike
  | cons turn rest ih => exact ih (simulation.turn alike source taxonomy options turn)

end ThoughtStore.Simulation

namespace Sync

/-! ## Finished overlaps -/

theorem Worker.owed_of_finished {worker : Worker} (finished : worker.isFinished = true)
    (taxonomy : Taxonomy) (bodies : Int → Text) : worker.owed taxonomy bodies = [] := by
  cases worker with
  | waiting => cases finished
  | working tasks account =>
      cases tasks with
      | nil => rfl
      | cons task rest => cases finished

/-- When both syncs have finished, everything that was pending is stored. -/
theorem Overlap.Sound.mem_checksums_iff {taxonomy : Taxonomy} {bodies : Int → Text}
    {listing : List Journal} {base : Memory} {overlap : Overlap Memory}
    (sound : overlap.Sound taxonomy bodies listing base) (finished : overlap.isFinished = true)
    (sum : Text) :
    sum ∈ overlap.store.rows.map Thought.checksum ↔
      sum ∈ base.rows.map Thought.checksum ∨
        sum ∈ (thoughtsOf taxonomy bodies
          (Journal.selectDelta base.latest listing)).map Thought.checksum := by
  obtain ⟨firstDone, secondDone⟩ := Bool.and_eq_true_iff.mp finished
  obtain ⟨added, rows, _, pending⟩ := sound.appends
  constructor
  · intro stored
    rw [rows, List.map_append] at stored
    refine (List.mem_append.mp stored).imp_right fun new => ?_
    obtain ⟨row, member, rfl⟩ := List.mem_map.mp new
    exact List.mem_map_of_mem (pending row member)
  · rintro (old | extracted)
    · rw [rows, List.map_append]
      exact List.mem_append_left _ old
    · rcases sound.covers with rfl | covered
      · cases firstDone
      · have settled := covered sum extracted
        rw [Worker.owed_of_finished firstDone, Worker.owed_of_finished secondDone] at settled
        simpa only [List.map_nil, List.not_mem_nil, or_false] using settled

section

variable {σ : Type} [ThoughtStore σ] (source : Source) (taxonomy : Taxonomy) (options : Options)

theorem Overlap.run_append (overlap : Overlap σ) (before after : List Turn) :
    overlap.run source taxonomy options (before ++ after) =
      (overlap.run source taxonomy options before).run source taxonomy options after :=
  List.foldl_append

/-- Turns of the first sync alone take it its steps further and leave the other one where it is. -/
theorem Overlap.run_first (overlap : Overlap σ) (count : Nat) :
    let after := Worker.steps source taxonomy options count (overlap.first, overlap.store)
    overlap.run source taxonomy options (List.replicate count .first) =
      ⟨after.2, after.1, overlap.second⟩ := by
  induction count generalizing overlap with
  | zero => rfl
  | succ count ih => exact ih (overlap.turn source taxonomy options .first)

/-- Turns of the second sync alone take it its steps further and leave the other one where it is. -/
theorem Overlap.run_second (overlap : Overlap σ) (count : Nat) :
    let after := Worker.steps source taxonomy options count (overlap.second, overlap.store)
    overlap.run source taxonomy options (List.replicate count .second) =
      ⟨after.2, overlap.first, after.1⟩ := by
  induction count generalizing overlap with
  | zero => rfl
  | succ count ih => exact ih (overlap.turn source taxonomy options .second)

/-- Whatever turns were taken, some more bring both syncs to their end. -/
theorem Overlap.exists_run_finished (overlap : Overlap σ) :
    ∃ turns, (overlap.run source taxonomy options turns).isFinished = true := by
  obtain ⟨firstCount, firstDone⟩ :=
    Worker.exists_steps_finished source taxonomy options overlap.first overlap.store
  let middle := overlap.run source taxonomy options (List.replicate firstCount .first)
  have middleDone : middle.first.isFinished = true := by
    rw [← firstDone]
    exact congrArg (fun state : Overlap σ => state.first.isFinished)
      (overlap.run_first source taxonomy options firstCount)
  obtain ⟨secondCount, secondDone⟩ :=
    Worker.exists_steps_finished source taxonomy options middle.second middle.store
  refine ⟨List.replicate firstCount .first ++ List.replicate secondCount .second, ?_⟩
  rw [run_append, run_second, isFinished, Bool.and_eq_true]
  exact ⟨middleDone, secondDone⟩

end

/-- **Overlapping syncs lose and duplicate nothing.** When two incremental syncs of the same journals
have taken their steps in whatever order and both have finished, every checksum is stored in one row,
the stored checksums are those that one of the syncs alone would have left, the rows from before are
in place, and there are as many new rows as the two syncs have counted. The database with the same
rows goes through the same. -/
theorem checksums_after_overlap {source : Source} {listing : List Journal} {bodies : Int → Text}
    (served : source.Serves listing bodies) (taxonomy : Taxonomy) {store : Memory}
    (coherent : store.Coherent) (turns : List Turn)
    (finished : ((Overlap.start store).run source taxonomy .incremental turns).isFinished = true) :
    let after := (Overlap.start store).run source taxonomy .incremental turns
    let alone := run source taxonomy .incremental store
    (after.store.rows.map Thought.checksum).Nodup ∧
      (∀ sum, sum ∈ after.store.rows.map Thought.checksum ↔
        sum ∈ alone.store.rows.map Thought.checksum) ∧
      store.rows <+: after.store.rows ∧
      after.store.rows.length =
        store.rows.length + (after.first.inserted + after.second.inserted) ∧
      ∀ database, Relational.Holds store database →
        let shared := (Overlap.start database).run source taxonomy .incremental turns
        shared.first = after.first ∧ shared.second = after.second ∧
          Relational.Holds after.store shared.store := by
  intro after alone
  have sound : after.Sound taxonomy bodies listing store :=
    (Overlap.sound_start taxonomy bodies listing coherent).run served turns
  obtain ⟨added, rows, counted, pending⟩ := sound.appends
  refine ⟨sound.coherent.distinct, ?_, ?_, ?_, ?_⟩
  · intro sum
    rw [rows_run_incremental served taxonomy coherent, Thought.mem_checksums_append_additions]
    exact sound.mem_checksums_iff finished sum
  · rw [rows]
    exact List.prefix_append _ _
  · rw [rows, List.length_append, counted]
  · intro database holds shared
    have start : Overlap.Alike Relational.Holds (Overlap.start store) (Overlap.start database) :=
      ⟨holds, rfl, rfl⟩
    have alike := Relational.simulation_holds.overlap start source taxonomy .incremental turns
    exact ⟨alike.first.symm, alike.second.symm, alike.store⟩

/-- The second sync reads its watermark when the first one has stored a thought of the first journal,
so it selects the second journal only, and from there on they alternate. -/
theorem checksums_after_overlap_of_late_watermark :
    let listing : List Journal := [⟨2, "2026-03-02".toList⟩, ⟨1, "2026-03-01".toList⟩]
    let table := [(1, "## Area\n- a\n- b".toList), (2, "## Project\n- b\n- c".toList)]
    let source := Source.ofTable listing table
    let store := (Memory.empty.insert (Thought.compose "2026-02-01".toList ['d'] .area [])).2
    let turns : List Turn :=
      [.first, .first, .first, .second, .second, .second, .first, .first, .second, .first, .first]
    let after := (Overlap.start store).run source ⟨Dictionary.empty⟩ .incremental turns
    let alone := run source ⟨Dictionary.empty⟩ .incremental store
    after.isFinished = true ∧
      after.store.rows.map Thought.content = [['d'], ['a'], ['b'], ['c']] ∧
      (after.first.inserted, after.second.inserted) = (1, 2) ∧
      (after.store.rows.map Thought.checksum).Nodup ∧
      (∀ sum, sum ∈ after.store.rows.map Thought.checksum ↔
        sum ∈ alone.store.rows.map Thought.checksum) ∧
      after.store.rows.length =
        store.rows.length + (after.first.inserted + after.second.inserted) := by
  intro listing table source store turns after alone
  have served : source.Serves listing fun id => (table.lookup id).getD [] :=
    serves_ofTable (by decide)
  have coherent : store.Coherent := Memory.coherent_empty.insert _
  have finished : after.isFinished = true := by decide +kernel
  obtain ⟨distinct, sums, _, counted, _⟩ :=
    checksums_after_overlap served ⟨Dictionary.empty⟩ coherent turns finished
  exact ⟨finished, by decide +kernel, by decide +kernel, distinct, sums, counted⟩

end Sync

end ThoughtJournal
