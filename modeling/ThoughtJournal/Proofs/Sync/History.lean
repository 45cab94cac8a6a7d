import ThoughtJournal.Proofs.Session.Answers
import ThoughtJournal.Proofs.Sync.Accounts
import ThoughtJournal.Proofs.Sync.Faultless

/-! # Histories of incremental syncs

Incremental syncs run one after the other on the same store, each under its own circumstances: what
the source lists and serves, which answers fail, whether the sync writes and how much it reads. All
that a sync adds is dated after its watermark, which is the latest stored date, and it is added in
the order of the dates (`Sync.Round.prolongs`). So the rows of a store that began empty are in the
order of their dates, and its watermark is the date of the last one (`Sync.rows_history`).
-/

namespace ThoughtJournal

/-! ## Rows in the order of their dates -/

namespace Memory

/-- The rows of `after` are those of `before` and then, in the order of their dates, rows that are
dated after the watermark of `before`. -/
structure Prolongs (before after : Memory) (added : List Thought) : Prop where
  rows : after.rows = before.rows ++ added
  ascending : added.Pairwise fun earlier later => ¬ later.date < earlier.date
  later : ∀ row ∈ added, before.latest < row.date

namespace Prolongs

variable {before middle after : Memory} {first second added : List Thought}

theorem refl (store : Memory) : Prolongs store store [] where
  rows := (List.append_nil _).symm
  ascending := List.Pairwise.nil
  later _ member := absurd member List.not_mem_nil

/-- Rows that prolong a store never take its latest date back. -/
theorem not_latest_lt (prolongs : Prolongs before after added) : ¬ after.latest < before.latest :=
  not_latest_lt_of_rows prolongs.rows prolongs.later

/-- What is added is dated after all that was there. -/
theorem date_lt_date (prolongs : Prolongs before after added) {old new : Thought}
    (stored : old ∈ before.rows) (member : new ∈ added) : old.date < new.date :=
  Text.lt_of_not_lt_of_lt (Memory.not_latest_lt stored) (prolongs.later new member)

/-- Rows that prolong a store can be prolonged by later ones. -/
theorem trans (left : Prolongs before middle first) (right : Prolongs middle after second) :
    Prolongs before after (first ++ second) where
  rows := by rw [right.rows, left.rows, List.append_assoc]
  ascending := by
    refine List.pairwise_append.mpr ⟨left.ascending, right.ascending, ?_⟩
    intro old addedFirst new addedSecond
    have stored : old ∈ middle.rows := by
      rw [left.rows]
      exact List.mem_append_right _ addedFirst
    exact List.lt_asymm (right.date_lt_date stored addedSecond)
  later := by
    intro row member
    rcases List.mem_append.mp member with addedFirst | addedSecond
    · exact left.later row addedFirst
    · exact Text.lt_of_not_lt_of_lt left.not_latest_lt (right.later row addedSecond)

end Prolongs

/-- The watermark of a store whose rows are in the order of their dates. -/
theorem latest_of_ascending {store : Memory}
    (ascending : store.rows.Pairwise fun earlier later => ¬ later.date < earlier.date) :
    store.latest = (store.rows.getLast?.map Thought.date).getD epoch := by
  rcases store.latest_eq_epoch_or_exists with ⟨none, unset⟩ | ⟨row, stored, dated⟩
  · rw [none, unset]
    rfl
  · obtain ⟨earlier, last, split⟩ :=
      (List.eq_nil_or_concat' store.rows).resolve_left (List.ne_nil_of_mem stored)
    have lastStored : last ∈ store.rows := by
      rw [split]
      exact List.mem_append_right _ List.mem_cons_self
    have notAfter : ¬ last.date < row.date := by
      rw [split] at stored ascending
      rcases List.mem_append.mp stored with before | same
      · exact (List.pairwise_append.mp ascending).2.2 row before last List.mem_cons_self
      · rw [List.mem_singleton.mp same]
        exact List.lt_irrefl _
    rw [split, List.getLast?_concat, ← dated]
    exact Text.eq_of_not_lt (dated ▸ Memory.not_latest_lt lastStored) notAfter

end Memory

/-! ## What one sync adds -/

theorem Thought.additions_sublist (rows thoughts : List Thought) :
    (additions rows thoughts).Sublist thoughts :=
  (firstOccurrences_sublist _).trans List.filter_sublist

theorem FaultPlan.accepted_sublist (plan : FaultPlan) (attempts : Nat) (thoughts : List Thought) :
    (plan.accepted attempts thoughts).Sublist thoughts := by
  have kept := (List.filter_sublist (p := fun entry => (plan.insert entry.2 entry.1).isNone)
    (l := thoughts.zipIdx attempts)).map Prod.fst
  rwa [List.zipIdx_map_fst] at kept

namespace Sync

/-- The thoughts that are offered are dated by the journals. -/
theorem exists_title_of_mem_offered {source : Source} {taxonomy : Taxonomy} {askedBefore : Nat}
    {journals : List Journal} {thought : Thought}
    (member : thought ∈ offered source taxonomy askedBefore journals) :
    ∃ journal ∈ journals, journal.title = thought.date := by
  induction journals generalizing askedBefore with
  | nil => exact absurd member List.not_mem_nil
  | cons journal rest ih =>
      rw [offered_cons] at member
      rcases List.mem_append.mp member with first | others
      · refine ⟨journal, List.mem_cons_self, ?_⟩
        cases answer : source.body askedBefore journal.id with
        | ok body =>
            rw [offered_cons_of_ok answer, offered_nil, List.append_nil] at first
            exact (Taxonomy.date_of_mem_atomize first).symm
        | error failure =>
            rw [offered_cons_of_error answer] at first
            exact absurd first List.not_mem_nil
      · obtain ⟨later, present, titled⟩ := ih others
        exact ⟨later, List.mem_cons_of_mem journal present, titled⟩

/-- Journals in the order of their titles offer thoughts in the order of their dates. -/
theorem offered_ascending {journals : List Journal} (ascending : Journal.Ascending journals)
    (source : Source) (taxonomy : Taxonomy) (askedBefore : Nat) :
    (offered source taxonomy askedBefore journals).Pairwise
      fun earlier later => ¬ later.date < earlier.date := by
  induction journals generalizing askedBefore with
  | nil => exact List.Pairwise.nil
  | cons journal rest ih =>
      obtain ⟨least, tail⟩ := List.pairwise_cons.mp ascending
      have titled : ∀ thought ∈ offered source taxonomy askedBefore [journal],
          thought.date = journal.title := by
        intro thought member
        obtain ⟨other, single, titled⟩ := exists_title_of_mem_offered member
        rw [← titled, List.mem_singleton.mp single]
      rw [offered_cons]
      refine List.pairwise_append.mpr ⟨?_, ih tail _, ?_⟩
      · apply List.pairwise_of_forall_mem_list
        intro earlier first later second
        rw [titled earlier first, titled later second]
        exact List.lt_irrefl _
      · intro earlier first later others
        obtain ⟨other, present, dated⟩ := exists_title_of_mem_offered others
        rw [titled earlier first, ← dated]
        exact least other present

/-- What a run adds are thoughts that were offered to it. -/
theorem exists_rows_run {store : Faulty Memory} (coherent : store.inner.Coherent)
    (source : Source) (taxonomy : Taxonomy) (options : Options) :
    ∃ added, (run source taxonomy options store).store.inner.rows = store.inner.rows ++ added ∧
      (added = [] ∨ ∃ watermark index, watermarkFor options store = .ok watermark ∧
        source.index = .ok index ∧
        added.Sublist (offered source taxonomy 0 (selection options watermark index))) := by
  have untouched : ∀ {after : Run (Faulty Memory)}, after.store = store →
      after.store.inner.rows = store.inner.rows ++ [] := by
    intro after same
    rw [same, List.append_nil]
  cases resolved : watermarkFor options store with
  | error fault =>
      exact ⟨[], untouched (congrArg Run.store (run_of_unresolved resolved ..)), Or.inl rfl⟩
  | ok watermark =>
      cases listed : source.index with
      | error cause =>
          exact ⟨[], untouched (congrArg Run.store (run_of_unlisted resolved listed _)),
            Or.inl rfl⟩
      | ok index =>
          cases dry : options.dryRun with
          | true =>
              refine ⟨[], untouched ?_, Or.inl rfl⟩
              rw [run_of_listed resolved listed]
              exact store_finalProgress_dry dry ..
          | false =>
              have rows := Memory.rows_insertAll coherent (store.plan.accepted store.attempts
                (offered source taxonomy 0 (selection options watermark index)))
              rw [← Faulty.inner_insertAll, ← store_run resolved listed dry] at rows
              refine ⟨_, rows, Or.inr ⟨watermark, index, rfl, rfl, ?_⟩⟩
              exact (Thought.additions_sublist _ _).trans (FaultPlan.accepted_sublist _ _ _)

/-- The journals of a run are listed and titled after the watermark. -/
theorem mem_selection {options : Options} {watermark : Text} {index : List Journal}
    {journal : Journal} (member : journal ∈ selection options watermark index) :
    journal ∈ index ∧ watermark < journal.title :=
  mem_selectDelta.mp ((selection_prefix_selectDelta options watermark index).subset member)

theorem mem_chosen_unlimited {watermark : Text} {index : List Journal} {journal : Journal} :
    journal ∈ chosen none watermark index ↔ journal ∈ index ∧ watermark < journal.title := by
  have whole := selection_eq_chosen .incremental watermark index
  change Journal.selectDelta watermark index = chosen none watermark index at whole
  rw [← whole]
  exact mem_selectDelta

/-- A store whose queries do not fail tells the watermark of the store inside. -/
theorem watermarkFor_of_answered {store : Faulty Memory} (answered : store.plan.latest = none)
    (options : Options) : watermarkFor options store = .ok (startingDate options store.inner) := by
  unfold watermarkFor startingDate resolveWatermark
  cases options.full with
  | true => rfl
  | false =>
      simp only [ThoughtStore.latest, Faulty.guarded, answered, Bool.false_eq_true, ↓reduceIte]

/-! ## Histories -/

/-- An incremental sync and its circumstances: the source, the plan by which the store fails,
whether nothing is written, and how many journals are read at most. -/
structure Round where
  taxonomy : Taxonomy
  source : Source
  plan : FaultPlan
  dryRun : Bool
  limit : Option Nat

namespace Round

def options (round : Round) : Options := ⟨false, round.dryRun, round.limit⟩

/-- The journals that a round can learn of: none if its watermark or its index fails. -/
def listing (round : Round) : List Journal :=
  match round.plan.latest, round.source.index with
  | none, .ok index => index
  | _, _ => []

section

variable {σ : Type} [ThoughtStore σ]

def run (round : Round) (store : Faulty σ) : Run (Faulty σ) :=
  Sync.run round.source round.taxonomy round.options (store.withPlan round.plan)

/-- The store after rounds one after the other. -/
def history (store : Faulty σ) (rounds : List Round) : Faulty σ :=
  rounds.foldl (fun store round => (round.run store).store) store

end

theorem history_append {σ : Type} [ThoughtStore σ] (store : Faulty σ) (earlier later : List Round) :
    history store (earlier ++ later) = history (history store earlier) later :=
  List.foldl_append

section

variable {store : Faulty Memory}

/-- A round that has a watermark and an index learns of the journals of the index. -/
theorem listing_of_resolved {round : Round} {watermark : Text} {index : List Journal}
    (resolved : watermarkFor round.options (store.withPlan round.plan) = .ok watermark)
    (listed : round.source.index = .ok index) : round.listing = index := by
  unfold listing
  cases planned : round.plan.latest with
  | none => simp only [listed]
  | some failure =>
      have failed : ThoughtStore.latest (store.withPlan round.plan) = .error failure := by
        simp only [ThoughtStore.latest, Faulty.withPlan, Faulty.guarded, planned]
      have unresolved := watermarkFor_eq_error_iff.mpr
        (⟨rfl, failure, failed, rfl⟩ : round.options.full = false ∧ _)
      rw [unresolved] at resolved
      cases resolved

/-- A round keeps the index in step with the rows. -/
theorem coherent_run (coherent : store.inner.Coherent) (round : Round) :
    (round.run store).store.inner.Coherent := by
  have planned : (store.withPlan round.plan).inner.Coherent := coherent
  exact Sync.coherent_run planned ..

/-- **What one sync adds** is dated after the watermark before it, in the order of the dates, and by
titles that it could learn of. -/
theorem prolongs (coherent : store.inner.Coherent) (round : Round) :
    ∃ added, Memory.Prolongs store.inner (round.run store).store.inner added ∧
      ∀ row ∈ added, ∃ journal ∈ round.listing, journal.title = row.date := by
  have planned : (store.withPlan round.plan).inner.Coherent := coherent
  obtain ⟨added, rows, nothing | ⟨watermark, index, resolved, listed, offered⟩⟩ :=
    exists_rows_run planned round.source round.taxonomy round.options
  · subst nothing
    refine ⟨[], ⟨rows, List.Pairwise.nil, ?_⟩, ?_⟩
    · exact fun row member => absurd member List.not_mem_nil
    · exact fun row member => absurd member List.not_mem_nil
  · have start : watermark = store.inner.latest := watermarkFor_faulty resolved
    have titles : ∀ row ∈ added, ∃ journal ∈ selection round.options watermark index,
        journal.title = row.date := fun row member =>
      exists_title_of_mem_offered (offered.subset member)
    refine ⟨added, ⟨rows, ?_, ?_⟩, ?_⟩
    · exact (offered_ascending (selection_ascending ..) ..).sublist offered
    · intro row member
      obtain ⟨journal, selected, titled⟩ := titles row member
      rw [← titled, ← start]
      exact (mem_selection selected).2
    · intro row member
      obtain ⟨journal, selected, titled⟩ := titles row member
      refine ⟨journal, ?_, titled⟩
      rw [listing_of_resolved resolved listed]
      exact (mem_selection selected).1

/-- A history keeps the index in step with the rows. -/
theorem coherent_history (coherent : store.inner.Coherent) (rounds : List Round) :
    (history store rounds).inner.Coherent := by
  induction rounds generalizing store with
  | nil => exact coherent
  | cons round rest ih => exact ih (round.coherent_run coherent)

/-- The rows that a history adds are in the order of their dates, and each is dated by a listed
journal. -/
theorem prolongs_history (coherent : store.inner.Coherent) (rounds : List Round) :
    ∃ added, Memory.Prolongs store.inner (history store rounds).inner added ∧
      ∀ row ∈ added, ∃ round ∈ rounds, ∃ journal ∈ round.listing, journal.title = row.date := by
  induction rounds generalizing store with
  | nil =>
      exact ⟨[], Memory.Prolongs.refl _, fun row member => absurd member List.not_mem_nil⟩
  | cons round rest ih =>
      obtain ⟨first, prolonged, titled⟩ := round.prolongs coherent
      obtain ⟨others, continued, titledLater⟩ := ih (round.coherent_run coherent)
      refine ⟨first ++ others, prolonged.trans continued, ?_⟩
      intro row member
      rcases List.mem_append.mp member with now | later
      · exact ⟨round, List.mem_cons_self, titled row now⟩
      · obtain ⟨other, present, listed⟩ := titledLater row later
        exact ⟨other, List.mem_cons_of_mem round present, listed⟩

/-- The store in memory and the database go through a round alike. -/
theorem alike_run {database : Faulty Relational}
    (alike : Faulty.Alike Relational.Holds store database) (round : Round) :
    Run.Alike (Faulty.Alike Relational.Holds) (round.run store) (round.run database) :=
  Relational.simulation_holds.faulty.sync (alike.withPlan round.plan) ..

/-- A history leaves the two kinds of stores alike. -/
theorem alike_history {database : Faulty Relational}
    (alike : Faulty.Alike Relational.Holds store database) (rounds : List Round) :
    Faulty.Alike Relational.Holds (history store rounds) (history database rounds) := by
  induction rounds generalizing store database with
  | nil => exact alike
  | cons round rest ih => exact ih (round.alike_run alike).store

end

end Round

/-- **The order of the dates.** Incremental syncs that begin with an empty store, whatever they read
and whatever fails, leave the rows in the order of their dates, all of them after the epoch. What
later syncs add is dated after everything that was stored before, so the watermark never goes back,
and it is always the date of the last row. The rows of the database are the same. -/
theorem rows_history (earlier later : List Round) :
    let before := (Round.history (Faulty.ofStore Memory.empty) earlier).inner
    let after := (Round.history (Faulty.ofStore Memory.empty) (earlier ++ later)).inner
    let database := (Round.history (Faulty.ofStore Relational.empty) (earlier ++ later)).inner
    (after.rows.Pairwise fun old new => ¬ new.date < old.date) ∧
    (∀ row ∈ after.rows, epoch < row.date) ∧
    (∃ added, after.rows = before.rows ++ added ∧
      ∀ old ∈ before.rows, ∀ new ∈ added, old.date < new.date) ∧
    ¬ after.latest < before.latest ∧
    after.latest = (after.rows.getLast?.map Thought.date).getD epoch ∧
    Relational.Holds after database ∧ database.latest = .ok after.latest := by
  intro before after database
  have start : (Faulty.ofStore Memory.empty).inner.Coherent := Memory.coherent_empty
  obtain ⟨rows, whole, _⟩ := Round.prolongs_history start (earlier ++ later)
  obtain ⟨added, continued, _⟩ :=
    Round.prolongs_history (Round.coherent_history start earlier) later
  rw [← Round.history_append] at continued
  have all : after.rows = rows := whole.rows
  have ascending : after.rows.Pairwise fun old new => ¬ new.date < old.date :=
    all ▸ whole.ascending
  have holds : Relational.Holds after database :=
    (Round.alike_history Session.alike_empty (earlier ++ later)).inner
  refine ⟨ascending, all ▸ whole.later, ⟨added, continued.rows, ?_⟩, continued.not_latest_lt,
    Memory.latest_of_ascending ascending, holds, ?_⟩
  · exact fun old stored new member => continued.date_lt_date stored member
  · exact (Relational.simulation_holds.latest holds).symm

end Sync

end ThoughtJournal
