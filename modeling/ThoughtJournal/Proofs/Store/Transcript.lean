import ThoughtJournal.Proofs.Session.Answers
import ThoughtJournal.Proofs.Sync.Counters

/-! # The transcript of a store

A recorded store keeps a transcript of the attempts to insert that reach it: the store before, the
thought, what became of it and the store after. Recording changes no answer
(`Recorded.simulation`), so the transcript of insertions and syncs on a recorded store tells what
happened on the store itself, also within a sync.

On a store in memory whose answers fail by plans, every attempt is made on a store whose rows are the
thoughts inserted so far and whose index has their checksums, each once. An attempt that does not
insert leaves the store inside as it is, and one that does appends its thought
(`Request.transcript_of_requests`).
-/

namespace ThoughtJournal

/-- An attempt to insert a thought. -/
structure Attempt (σ : Type) where
  before : σ
  thought : Thought
  outcome : Except Failure InsertOutcome
  after : σ

/-- A store and the attempts to insert that were made on it, the earliest first. -/
structure Recorded (σ : Type) where
  store : σ
  transcript : List (Attempt σ)

namespace Recorded

variable {σ : Type}

def start (store : σ) : Recorded σ := ⟨store, []⟩

variable [ThoughtStore σ]

/-- What handing a thought to the store is recorded as. -/
def attempt (recorded : Recorded σ) (thought : Thought) : Attempt σ :=
  let result := ThoughtStore.insert recorded.store thought
  ⟨recorded.store, thought, result.1, result.2⟩

instance : ThoughtStore (Recorded σ) where
  latest recorded := ThoughtStore.latest recorded.store
  count recorded := ThoughtStore.count recorded.store
  stats recorded := ThoughtStore.stats recorded.store
  insert recorded thought :=
    let attempt := recorded.attempt thought
    (attempt.outcome, ⟨attempt.after, recorded.transcript ++ [attempt]⟩)

/-- Recording changes no answer. -/
theorem simulation :
    ThoughtStore.Simulation fun (recorded : Recorded σ) (store : σ) => recorded.store = store where
  latest same := congrArg ThoughtStore.latest same
  count same := congrArg ThoughtStore.count same
  stats same := congrArg ThoughtStore.stats same
  outcome same thought := congrArg (fun store => (ThoughtStore.insert store thought).1) same
  insert same thought := congrArg (fun store => (ThoughtStore.insert store thought).2) same

end Recorded

/-! ## What an attempt does -/

/-- The thoughts whose insertion a transcript shows, in order. -/
def insertedThoughts {σ : Type} (transcript : List (Attempt σ)) : List Thought :=
  (transcript.filter fun attempt => Sync.wasInserted attempt.outcome).map Attempt.thought

theorem insertedThoughts_append {σ : Type} (first second : List (Attempt σ)) :
    insertedThoughts (first ++ second) = insertedThoughts first ++ insertedThoughts second := by
  simp only [insertedThoughts, List.filter_append, List.map_append]

/-- A transcript shows as many inserted thoughts as attempts that inserted one. -/
theorem length_insertedThoughts {σ : Type} (transcript : List (Attempt σ)) :
    (insertedThoughts transcript).length =
      transcript.countP fun attempt => Sync.wasInserted attempt.outcome := by
  rw [insertedThoughts, List.length_map, List.countP_eq_length_filter]

/-- A store that answers all queries like another one, with the same store inside. -/
structure Faulty.Unchanged (before after : Faulty Memory) : Prop where
  inner : after.inner = before.inner
  latest : ThoughtStore.latest after = ThoughtStore.latest before
  stats : ThoughtStore.stats after = ThoughtStore.stats before
  count : ThoughtStore.count after = ThoughtStore.count before

/-- What an attempt on a store in memory does after the earlier ones. -/
structure Attempt.Sound (earlier : List (Attempt (Faulty Memory)))
    (attempt : Attempt (Faulty Memory)) : Prop where
  /-- The rows are the thoughts inserted so far. -/
  rows : attempt.before.inner.rows = insertedThoughts earlier
  coherent : attempt.before.inner.Coherent
  failed_iff : ∀ failure, attempt.outcome = .error failure ↔
    attempt.before.plan.insert attempt.before.attempts attempt.thought = some failure
  duplicate_iff : attempt.outcome = .ok .duplicate ↔
    attempt.before.plan.insert attempt.before.attempts attempt.thought = none ∧
      ∃ row ∈ attempt.before.inner.rows, row.checksum = attempt.thought.checksum
  appended : attempt.outcome = .ok .inserted →
    attempt.after.inner.rows = attempt.before.inner.rows ++ [attempt.thought]
  unchanged : attempt.outcome ≠ .ok .inserted → attempt.before.Unchanged attempt.after

/-- The three ways in which an attempt on a store in memory ends. -/
theorem Faulty.insert_cases (store : Faulty Memory) (thought : Thought) :
    (∃ failure, store.plan.insert store.attempts thought = some failure ∧
      ThoughtStore.insert store thought =
        (.error failure, { store with attempts := store.attempts + 1 })) ∨
    (store.plan.insert store.attempts thought = none ∧ thought.checksum ∈ store.inner.checksums ∧
      ThoughtStore.insert store thought =
        (.ok .duplicate, { store with attempts := store.attempts + 1 })) ∨
    (store.plan.insert store.attempts thought = none ∧ thought.checksum ∉ store.inner.checksums ∧
      ThoughtStore.insert store thought =
        (.ok .inserted, { store with
          inner := (store.inner.insert thought).2, attempts := store.attempts + 1 })) := by
  cases planned : store.plan.insert store.attempts thought with
  | some failure =>
      refine Or.inl ⟨failure, rfl, ?_⟩
      simp only [ThoughtStore.insert, Faulty.insert, planned]
  | none =>
      by_cases taken : thought.checksum ∈ store.inner.checksums
      · refine Or.inr (Or.inl ⟨rfl, taken, ?_⟩)
        simp only [ThoughtStore.insert, Faulty.insert, planned, Memory.insert_of_taken taken]
      · refine Or.inr (Or.inr ⟨rfl, taken, ?_⟩)
        simp only [ThoughtStore.insert, Faulty.insert, planned, Memory.insert_of_free taken]

namespace Recorded

variable {recorded : Recorded (Faulty Memory)}

theorem attempt_eq_of_insert {thought : Thought} {outcome : Except Failure InsertOutcome}
    {after : Faulty Memory}
    (ended : ThoughtStore.insert recorded.store thought = (outcome, after)) :
    recorded.attempt thought = ⟨recorded.store, thought, outcome, after⟩ := by
  simp only [attempt, ended]

/-- An attempt on a coherent store whose rows are the thoughts inserted so far does what it
should. -/
theorem sound_attempt {earlier : List (Attempt (Faulty Memory))}
    (coherent : recorded.store.inner.Coherent)
    (rows : recorded.store.inner.rows = insertedThoughts earlier) (thought : Thought) :
    (recorded.attempt thought).Sound earlier := by
  have taken_iff : thought.checksum ∈ recorded.store.inner.checksums ↔
      ∃ row ∈ recorded.store.inner.rows, row.checksum = thought.checksum := by
    rw [coherent.indexed, List.mem_map]
  rcases recorded.store.insert_cases thought with
    ⟨failure, planned, ended⟩ | ⟨planned, taken, ended⟩ | ⟨planned, free, ended⟩
  · rw [attempt_eq_of_insert ended]
    refine ⟨rows, coherent, fun other => ?_, ?_, fun inserted => ?_, fun _ => ⟨rfl, rfl, rfl, rfl⟩⟩
    · rw [planned, Except.error.injEq, Option.some.injEq]
    · simp only [planned, reduceCtorEq, false_and]
    · cases inserted
  · rw [attempt_eq_of_insert ended]
    refine ⟨rows, coherent, fun other => ?_, ?_, fun inserted => ?_, fun _ => ⟨rfl, rfl, rfl, rfl⟩⟩
    · simp only [planned, reduceCtorEq]
    · simp only [planned, true_and, true_iff]
      exact taken_iff.mp taken
    · cases inserted
  · rw [attempt_eq_of_insert ended]
    refine ⟨rows, coherent, fun other => ?_, ?_, fun _ => ?_, fun other => absurd rfl other⟩
    · simp only [planned, reduceCtorEq]
    · simp only [planned, true_and, Except.ok.injEq, reduceCtorEq, false_iff]
      exact fun present => free (taken_iff.mpr present)
    · rw [Memory.insert_of_free free]

end Recorded

/-- After a sound attempt the rows are the thoughts inserted so far, its own included. -/
theorem Attempt.Sound.rows_after {earlier : List (Attempt (Faulty Memory))}
    {attempt : Attempt (Faulty Memory)} (sound : attempt.Sound earlier) :
    attempt.after.inner.rows = insertedThoughts (earlier ++ [attempt]) := by
  rw [insertedThoughts_append, ← sound.rows]
  by_cases inserted : attempt.outcome = .ok .inserted
  · rw [sound.appended inserted]
    simp only [insertedThoughts, List.filter_cons, inserted, Sync.wasInserted, ↓reduceIte,
      List.filter_nil, List.map_cons, List.map_nil]
  · have uncounted : Sync.wasInserted attempt.outcome = false := by
      unfold Sync.wasInserted
      split
      · exact absurd ‹_› inserted
      · rfl
    rw [(sound.unchanged inserted).inner]
    simp only [insertedThoughts, List.filter_cons, uncounted, Bool.false_eq_true, ↓reduceIte,
      List.filter_nil, List.map_nil, List.append_nil]

/-- An attempt keeps the index in step with the rows, whether it fails or not. -/
theorem Faulty.coherent_insert {store : Faulty Memory} (coherent : store.inner.Coherent)
    (thought : Thought) : (ThoughtStore.insert store thought).2.inner.Coherent := by
  rcases store.insert_cases thought with
    ⟨failure, planned, ended⟩ | ⟨planned, taken, ended⟩ | ⟨planned, free, ended⟩
  · rw [ended]
    exact coherent
  · rw [ended]
    exact coherent
  · rw [ended]
    exact coherent.insert thought

/-! ## What a transcript shows -/

namespace Recorded

variable {recorded : Recorded (Faulty Memory)}

/-- A recorded store in memory with the rows that its transcript shows, reached by sound attempts
only. -/
structure Sound (recorded : Recorded (Faulty Memory)) : Prop where
  coherent : recorded.store.inner.Coherent
  rows : recorded.store.inner.rows = insertedThoughts recorded.transcript
  attempts : ∀ earlier attempt later, recorded.transcript = earlier ++ attempt :: later →
    attempt.Sound earlier

/-- The empty transcript of an empty store is sound. -/
theorem sound_start : (start (Faulty.ofStore Memory.empty)).Sound where
  coherent := Memory.coherent_empty
  rows := rfl
  attempts earlier attempt later split := by
    have absent := congrArg List.length split
    simp only [start, List.length_nil, List.length_append, List.length_cons] at absent
    omega

/-- An insertion adds a sound attempt to the transcript. -/
theorem Sound.insert (sound : recorded.Sound) (thought : Thought) :
    (ThoughtStore.insert recorded thought).2.Sound := by
  have attempted : (recorded.attempt thought).Sound recorded.transcript :=
    sound_attempt sound.coherent sound.rows thought
  refine ⟨Faulty.coherent_insert sound.coherent thought, attempted.rows_after, ?_⟩
  intro earlier attempt later split
  change recorded.transcript ++ [recorded.attempt thought] = _ at split
  rcases List.eq_nil_or_concat' later with rfl | ⟨others, last, rfl⟩
  · obtain ⟨same, new⟩ := List.append_inj' split rfl
    rw [← same, ← List.singleton_inj.mp new]
    exact attempted
  · rw [← List.cons_append, ← List.append_assoc] at split
    exact sound.attempts earlier attempt others (List.append_inj' split rfl).1

/-- Insertions keep the transcript sound. -/
theorem Sound.insertAll (sound : recorded.Sound) (thoughts : List Thought) :
    (ThoughtStore.insertAll recorded thoughts).2.Sound := by
  induction thoughts generalizing recorded with
  | nil => exact sound
  | cons thought rest ih => exact ih (sound.insert thought)

/-- Nothing but insertions happens to the store in a sync. -/
theorem Sound.sync (sound : recorded.Sound) (source : Sync.Source) (taxonomy : Taxonomy)
    (options : Sync.Options) : (Sync.run source taxonomy options recorded).store.Sound := by
  obtain ⟨thoughts, after⟩ := Sync.exists_insertAll_run source taxonomy options recorded
  rw [after]
  exact sound.insertAll thoughts

/-- Another plan of failures leaves the rows and the transcript as they are. -/
theorem Sound.withPlan (sound : recorded.Sound) (plan : FaultPlan) :
    Sound { recorded with store := recorded.store.withPlan plan } :=
  ⟨sound.coherent, sound.rows, sound.attempts⟩

end Recorded

/-! ## Insertions and syncs -/

/-- What a store that fails by a plan is asked to do. -/
inductive Request where
  | insert (thought : Thought)
  | sync (source : Sync.Source) (taxonomy : Taxonomy) (options : Sync.Options)
  /-- Replaces the plan by which the store fails. -/
  | plan (faults : FaultPlan)

namespace Request

variable {σ : Type} [ThoughtStore σ]

def perform (store : Faulty σ) : Request → Faulty σ
  | .insert thought => (ThoughtStore.insert store thought).2
  | .sync source taxonomy options => (Sync.run source taxonomy options store).store
  | .plan faults => store.withPlan faults

/-- Does what is asked on a recorded store. -/
def record (recorded : Recorded (Faulty σ)) : Request → Recorded (Faulty σ)
  | .insert thought => (ThoughtStore.insert recorded thought).2
  | .sync source taxonomy options => (Sync.run source taxonomy options recorded).store
  | .plan faults => { recorded with store := recorded.store.withPlan faults }

/-- Recording a request does on the store what the request does. -/
theorem store_record (recorded : Recorded (Faulty σ)) (request : Request) :
    (request.record recorded).store = request.perform recorded.store := by
  cases request with
  | insert thought => rfl
  | sync source taxonomy options => exact (Recorded.simulation.sync rfl source taxonomy options).store
  | plan faults => rfl

theorem store_foldl_record (recorded : Recorded (Faulty σ)) (requests : List Request) :
    (requests.foldl record recorded).store = requests.foldl perform recorded.store := by
  induction requests generalizing recorded with
  | nil => rfl
  | cons request rest ih => rw [List.foldl_cons, ih, store_record, List.foldl_cons]

/-- Every request keeps the transcript sound. -/
theorem sound_record {recorded : Recorded (Faulty Memory)} (sound : recorded.Sound)
    (request : Request) : (request.record recorded).Sound := by
  cases request with
  | insert thought => exact sound.insert thought
  | sync source taxonomy options => exact sound.sync source taxonomy options
  | plan faults => exact sound.withPlan faults

/-- The transcript of any requests is sound. -/
theorem sound_foldl_record {recorded : Recorded (Faulty Memory)} (sound : recorded.Sound)
    (requests : List Request) : (requests.foldl record recorded).Sound := by
  induction requests generalizing recorded with
  | nil => exact sound
  | cons request rest ih => exact ih (sound_record sound request)

/-- **What a store in memory keeps.** Whatever thoughts are inserted and whatever syncs are run,
beginning with an empty store, and whatever fails: the index has exactly the checksums of the rows,
no checksum twice, and there are as many rows as insertions so far. Every attempt, alone or within a
sync, is a duplicate exactly when it does not fail and a row has the checksum; unless it inserts, it
leaves the rows and all answers of the store as they are; and the rows after it stay the first rows
forever. -/
theorem transcript_of_requests (requests : List Request) :
    let store := requests.foldl perform (Faulty.ofStore Memory.empty)
    let recorded := requests.foldl record (Recorded.start (Faulty.ofStore Memory.empty))
    recorded.store = store ∧
    (∀ sum, sum ∈ store.inner.checksums ↔ ∃ row ∈ store.inner.rows, row.checksum = sum) ∧
    (store.inner.rows.map Thought.checksum).Nodup ∧
    ThoughtStore.count store =
      .ok (recorded.transcript.countP fun attempt => Sync.wasInserted attempt.outcome) ∧
    store.inner.rows = insertedThoughts recorded.transcript ∧
    ∀ earlier attempt later, recorded.transcript = earlier ++ attempt :: later →
      attempt.Sound earlier ∧ attempt.after.inner.rows <+: store.inner.rows := by
  intro store recorded
  have same : recorded.store = store := store_foldl_record _ requests
  have sound : recorded.Sound := sound_foldl_record Recorded.sound_start requests
  have coherent : store.inner.Coherent := same ▸ sound.coherent
  have rows : store.inner.rows = insertedThoughts recorded.transcript := same ▸ sound.rows
  refine ⟨same, fun sum => ?_, coherent.distinct, ?_, rows, ?_⟩
  · rw [coherent.indexed, List.mem_map]
  · rw [← length_insertedThoughts, ← rows]
    rfl
  · intro earlier attempt later split
    have attempted := sound.attempts earlier attempt later split
    have through : recorded.transcript = (earlier ++ [attempt]) ++ later :=
      split.trans (List.append_cons ..)
    refine ⟨attempted, ?_⟩
    rw [attempted.rows_after, rows, through, insertedThoughts_append _ later]
    exact List.prefix_append _ _

/-- A thought that cannot be inserted at first, and another one with its checksum. -/
example :
    let first : Thought := ⟨['1'], ['a'], .area, [], [], ['x'], 0⟩
    let second : Thought := ⟨['2'], ['b'], .project, [], [], ['x'], 0⟩
    let failing : FaultPlan := ⟨none, none, fun _ _ => some (Failure.of [])⟩
    let requests := [plan failing, insert first, plan FaultPlan.never, insert first, insert second]
    ((requests.foldl record (Recorded.start (Faulty.ofStore Memory.empty))).transcript.map
      Attempt.outcome) = [.error (Failure.of []), .ok .inserted, .ok .duplicate] := rfl

end Request

end ThoughtJournal
