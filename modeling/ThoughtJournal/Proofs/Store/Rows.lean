import Mathlib.Data.List.Nodup
import ThoughtJournal.Store.Faulty
import ThoughtJournal.Store.Memory

/-! # The rows that insertions add

A store in memory that is handed a list of thoughts appends the thoughts whose checksum no row has,
each checksum once, under the first thought that has it (`Memory.rows_insertAll`). The list of these
thoughts is `Thought.additions`. The first occurrences in two lists one after the other are those of
the first list followed by the additions of the second one (`Thought.firstOccurrences_append`), so
handing thoughts over in several portions gives the rows of handing them over at once.

A store that fails by a plan reaches the store inside with the thoughts whose attempts do not fail
(`Faulty.inner_insertAll`).
-/

namespace ThoughtJournal

namespace Thought

/-- The thoughts of a list that are the first with their checksum, in order. -/
def firstOccurrences : List Thought → List Thought
  | [] => []
  | thought :: rest =>
      thought :: (firstOccurrences rest).filter fun later => later.checksum ≠ thought.checksum

/-- The thoughts whose checksum no row has, each the first of them with its checksum, in order. -/
def additions (rows thoughts : List Thought) : List Thought :=
  firstOccurrences (thoughts.filter fun thought => thought.checksum ∉ rows.map checksum)

@[simp] theorem firstOccurrences_nil : firstOccurrences [] = [] := rfl

theorem firstOccurrences_cons (thought : Thought) (rest : List Thought) :
    firstOccurrences (thought :: rest) =
      thought :: (firstOccurrences rest).filter fun later =>
        later.checksum ≠ thought.checksum := rfl

@[simp] theorem additions_nil (rows : List Thought) : additions rows [] = [] := rfl

/-- The first occurrences are some of the thoughts, in their order. -/
theorem firstOccurrences_sublist (thoughts : List Thought) :
    (firstOccurrences thoughts).Sublist thoughts := by
  induction thoughts with
  | nil => exact List.Sublist.refl _
  | cons thought rest ih => exact (List.filter_sublist.trans ih).cons_cons thought

/-- Only thoughts of the list are added. -/
theorem mem_of_mem_additions {rows thoughts : List Thought} {thought : Thought}
    (member : thought ∈ additions rows thoughts) : thought ∈ thoughts :=
  (List.mem_filter.mp ((firstOccurrences_sublist _).subset member)).1

/-- Taking first occurrences loses no checksum. -/
theorem mem_checksums_firstOccurrences (sum : Text) (thoughts : List Thought) :
    sum ∈ (firstOccurrences thoughts).map checksum ↔ sum ∈ thoughts.map checksum := by
  induction thoughts with
  | nil => exact Iff.rfl
  | cons thought rest ih =>
      rw [firstOccurrences_cons, List.map_cons, List.map_cons, List.mem_cons, List.mem_cons, ← ih]
      by_cases same : sum = thought.checksum
      · simp only [same, true_or]
      · simp only [same, false_or, List.mem_map, List.mem_filter, decide_eq_true_eq]
        constructor
        · rintro ⟨later, ⟨member, _⟩, rfl⟩
          exact ⟨later, member, rfl⟩
        · rintro ⟨later, member, rfl⟩
          exact ⟨later, ⟨member, same⟩, rfl⟩

/-- Selecting by checksum and taking first occurrences can be done in either order. -/
theorem firstOccurrences_filter (keep : Text → Bool) (thoughts : List Thought) :
    firstOccurrences (thoughts.filter fun thought => keep thought.checksum) =
      (firstOccurrences thoughts).filter fun thought => keep thought.checksum := by
  induction thoughts with
  | nil => rfl
  | cons thought rest ih =>
      by_cases kept : keep thought.checksum = true
      · simp only [List.filter_cons, kept, ↓reduceIte, firstOccurrences_cons, ih]
        rw [List.filter_comm]
      · simp only [List.filter_cons, kept, Bool.false_eq_true, ↓reduceIte, firstOccurrences_cons, ih]
        rw [List.filter_comm, eq_comm, List.filter_eq_self]
        intro later member
        have keptLater : keep later.checksum = true := (List.mem_filter.mp member).2
        exact decide_eq_true fun same => kept (same ▸ keptLater)

/-- The additions are the first occurrences whose checksum no row has. -/
theorem additions_eq_filter (rows thoughts : List Thought) :
    additions rows thoughts =
      (firstOccurrences thoughts).filter fun thought => thought.checksum ∉ rows.map checksum :=
  firstOccurrences_filter (fun sum => decide (sum ∉ rows.map checksum)) thoughts

/-- To no rows all first occurrences are added. -/
theorem additions_empty (thoughts : List Thought) :
    additions [] thoughts = firstOccurrences thoughts := by
  rw [additions_eq_filter, List.filter_eq_self]
  intro thought _
  exact decide_eq_true List.not_mem_nil

/-- A thought whose checksum a row has adds nothing. -/
theorem additions_cons_of_taken {rows : List Thought} {thought : Thought}
    (taken : thought.checksum ∈ rows.map checksum) (rest : List Thought) :
    additions rows (thought :: rest) = additions rows rest := by
  simp only [additions, List.filter_cons, taken, not_true_eq_false, decide_false,
    Bool.false_eq_true, ↓reduceIte]

/-- A thought with a new checksum is added, and counts as a row for the others. -/
theorem additions_cons_of_free {rows : List Thought} {thought : Thought}
    (free : thought.checksum ∉ rows.map checksum) (rest : List Thought) :
    additions rows (thought :: rest) = thought :: additions (rows ++ [thought]) rest := by
  rw [additions_eq_filter, additions_eq_filter]
  simp only [firstOccurrences_cons, List.filter_cons, free, not_false_eq_true, decide_true,
    ↓reduceIte, List.filter_filter]
  congr 1
  apply List.filter_congr
  intro later _
  simp only [List.map_append, List.map_cons, List.map_nil, List.mem_append, List.mem_singleton,
    not_or, Bool.decide_and, ne_eq]

/-- The additions of two lists one after the other. -/
theorem additions_append (rows first second : List Thought) :
    additions rows (first ++ second) =
      additions rows first ++ additions (rows ++ additions rows first) second := by
  induction first generalizing rows with
  | nil => rw [List.nil_append, additions_nil, List.nil_append, List.append_nil]
  | cons thought rest ih =>
      rw [List.cons_append]
      by_cases taken : thought.checksum ∈ rows.map checksum
      · rw [additions_cons_of_taken taken, additions_cons_of_taken taken, ih]
      · rw [additions_cons_of_free taken, additions_cons_of_free taken, ih, List.cons_append,
          List.append_assoc, List.singleton_append]

/-- The first occurrences in two lists one after the other. -/
theorem firstOccurrences_append (first second : List Thought) :
    firstOccurrences (first ++ second) =
      firstOccurrences first ++ additions (firstOccurrences first) second := by
  have split := additions_append [] first second
  rwa [additions_empty, additions_empty, List.nil_append] at split

/-- Nothing is added exactly when every checksum is that of a row. -/
theorem additions_eq_nil_iff {rows thoughts : List Thought} :
    additions rows thoughts = [] ↔
      ∀ thought ∈ thoughts, thought.checksum ∈ rows.map checksum := by
  constructor
  · intro nothing thought member
    by_contra free
    have added : thought.checksum ∈ (additions rows thoughts).map checksum := by
      rw [additions, mem_checksums_firstOccurrences]
      exact List.mem_map.mpr ⟨thought, List.mem_filter.mpr ⟨member, decide_eq_true free⟩, rfl⟩
    rw [nothing] at added
    exact List.not_mem_nil added
  · intro taken
    have none : thoughts.filter (fun thought => thought.checksum ∉ rows.map checksum) = [] := by
      rw [List.filter_eq_nil_iff]
      intro thought member free
      exact of_decide_eq_true free (taken thought member)
    rw [additions, none, firstOccurrences_nil]

/-- What the first thoughts add does not depend on the later ones. -/
theorem additions_prefix_append (rows first second : List Thought) :
    additions rows first <+: additions rows (first ++ second) := by
  rw [additions_append]
  exact List.prefix_append _ _

/-- With their additions, rows have the checksums they had and those of the thoughts. -/
theorem mem_checksums_append_additions (sum : Text) (rows thoughts : List Thought) :
    sum ∈ (rows ++ additions rows thoughts).map checksum ↔
      sum ∈ rows.map checksum ∨ sum ∈ thoughts.map checksum := by
  rw [List.map_append, List.mem_append]
  by_cases present : sum ∈ rows.map checksum
  · simp only [present, true_or]
  · simp only [present, false_or]
    rw [additions, mem_checksums_firstOccurrences, List.mem_map, List.mem_map]
    constructor
    · rintro ⟨thought, member, rfl⟩
      exact ⟨thought, (List.mem_filter.mp member).1, rfl⟩
    · rintro ⟨thought, member, rfl⟩
      exact ⟨thought, List.mem_filter.mpr ⟨member, decide_eq_true present⟩, rfl⟩

end Thought

namespace Memory

/-- A store whose index lists the checksums of its rows, none of which occurs twice. Every store
that is reached from the empty one by insertions is coherent. -/
structure Coherent (store : Memory) : Prop where
  indexed : ∀ sum, sum ∈ store.checksums ↔ sum ∈ store.rows.map Thought.checksum
  distinct : (store.rows.map Thought.checksum).Nodup

theorem coherent_empty : empty.Coherent := ⟨fun _ => Iff.rfl, List.nodup_nil⟩

/-- An insertion appends the additions of the one thought. -/
theorem rows_insert {store : Memory} (coherent : store.Coherent) (thought : Thought) :
    (store.insert thought).2.rows = store.rows ++ Thought.additions store.rows [thought] := by
  by_cases taken : thought.checksum ∈ store.checksums
  · rw [insert_of_taken taken,
      Thought.additions_cons_of_taken ((coherent.indexed _).mp taken), Thought.additions_nil,
      List.append_nil]
  · rw [insert_of_free taken,
      Thought.additions_cons_of_free fun present => taken ((coherent.indexed _).mpr present),
      Thought.additions_nil]

/-- An insertion keeps the index in step with the rows. -/
theorem Coherent.insert {store : Memory} (coherent : store.Coherent) (thought : Thought) :
    (store.insert thought).2.Coherent := by
  by_cases taken : thought.checksum ∈ store.checksums
  · rw [insert_of_taken taken]
    exact coherent
  · rw [insert_of_free taken]
    have free : thought.checksum ∉ store.rows.map Thought.checksum :=
      fun present => taken ((coherent.indexed _).mpr present)
    constructor
    · intro sum
      simp only [List.mem_cons, coherent.indexed, List.map_append, List.map_cons, List.map_nil,
        List.mem_append, List.not_mem_nil, or_false]
      exact or_comm
    · simp only [List.map_append, List.map_cons, List.map_nil]
      refine List.nodup_append.mpr ⟨coherent.distinct, List.nodup_singleton _, ?_⟩
      intro sum present other member same
      rw [List.mem_singleton] at member
      exact free (member ▸ same ▸ present)

theorem insertAll_cons (store : Memory) (thought : Thought) (rest : List Thought) :
    (ThoughtStore.insertAll store (thought :: rest)).2 =
      (ThoughtStore.insertAll (store.insert thought).2 rest).2 := rfl

/-- Handing over thoughts keeps the index in step with the rows. -/
theorem Coherent.insertAll {store : Memory} (coherent : store.Coherent)
    (thoughts : List Thought) : (ThoughtStore.insertAll store thoughts).2.Coherent := by
  induction thoughts generalizing store with
  | nil => exact coherent
  | cons thought rest ih => exact ih (coherent.insert thought)

/-- **The rows that a store keeps.** Thoughts that are handed to a coherent store leave its rows in
place and append the additions. -/
theorem rows_insertAll {store : Memory} (coherent : store.Coherent) (thoughts : List Thought) :
    (ThoughtStore.insertAll store thoughts).2.rows =
      store.rows ++ Thought.additions store.rows thoughts := by
  induction thoughts generalizing store with
  | nil => rw [Thought.additions_nil, List.append_nil]; rfl
  | cons thought rest ih =>
      have appended := Thought.additions_append store.rows [thought] rest
      rw [List.singleton_append] at appended
      rw [insertAll_cons, ih (coherent.insert thought), rows_insert coherent, appended,
        List.append_assoc]

/-- A store that has all the checksums stays as it is. -/
theorem insertAll_of_taken {store : Memory} {thoughts : List Thought}
    (taken : ∀ thought ∈ thoughts, thought.checksum ∈ store.checksums) :
    ThoughtStore.insertAll store thoughts =
      (List.replicate thoughts.length (.ok .duplicate), store) := by
  induction thoughts with
  | nil => rfl
  | cons thought rest ih =>
      have first : ThoughtStore.insert store thought = (.ok .duplicate, store) := by
        simp only [ThoughtStore.insert, insert_of_taken (taken thought List.mem_cons_self)]
      have others := ih fun other member => taken other (List.mem_cons_of_mem thought member)
      rw [ThoughtStore.insertAll_cons, first, others]
      rfl

end Memory

namespace FaultPlan

/-- The thoughts whose attempts do not fail, when the first attempt has a given number. -/
def accepted (plan : FaultPlan) (attempts : Nat) (thoughts : List Thought) : List Thought :=
  ((thoughts.zipIdx attempts).filter fun entry => (plan.insert entry.2 entry.1).isNone).map Prod.fst

theorem accepted_cons (plan : FaultPlan) (attempts : Nat) (thought : Thought)
    (rest : List Thought) :
    plan.accepted attempts (thought :: rest) =
      (if (plan.insert attempts thought).isNone then [thought] else []) ++
        plan.accepted (attempts + 1) rest := by
  unfold accepted
  rw [List.zipIdx_cons, List.filter_cons]
  split <;> rfl

end FaultPlan

namespace Faulty

variable {σ : Type} [ThoughtStore σ]

@[simp] theorem plan_insert (store : Faulty σ) (thought : Thought) :
    (insert store thought).2.plan = store.plan := by
  unfold insert
  split <;> rfl

@[simp] theorem attempts_insert (store : Faulty σ) (thought : Thought) :
    (insert store thought).2.attempts = store.attempts + 1 := by
  unfold insert
  split <;> rfl

theorem insertAll_cons (store : Faulty σ) (thought : Thought) (rest : List Thought) :
    (ThoughtStore.insertAll store (thought :: rest)).2 =
      (ThoughtStore.insertAll (insert store thought).2 rest).2 := rfl

@[simp] theorem plan_insertAll (store : Faulty σ) (thoughts : List Thought) :
    (ThoughtStore.insertAll store thoughts).2.plan = store.plan := by
  induction thoughts generalizing store with
  | nil => rfl
  | cons thought rest ih => rw [insertAll_cons, ih, plan_insert]

/-- The store inside is handed the thoughts whose attempts do not fail. -/
theorem inner_insertAll (store : Faulty σ) (thoughts : List Thought) :
    (ThoughtStore.insertAll store thoughts).2.inner =
      (ThoughtStore.insertAll store.inner (store.plan.accepted store.attempts thoughts)).2 := by
  induction thoughts generalizing store with
  | nil => rfl
  | cons thought rest ih =>
      rw [insertAll_cons, ih, plan_insert, attempts_insert, FaultPlan.accepted_cons]
      cases planned : store.plan.insert store.attempts thought with
      | some failure =>
          rw [insert_of_planned planned]
          rfl
      | none =>
          have reached : (insert store thought).2.inner =
              (ThoughtStore.insert store.inner thought).2 := by
            simp only [insert, planned]
          rw [reached]
          rfl

end Faulty

end ThoughtJournal
