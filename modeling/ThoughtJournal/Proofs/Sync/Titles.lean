import ThoughtJournal.Proofs.Calendar.IsoDate
import ThoughtJournal.Proofs.Sync.History

/-! # Titles that are not dates

A tracker can list issues under any title. A journal that is titled with an ISO date after all ISO
dates listed before is selected by the next sync exactly when no thought is stored under a title
that is no date and comes after it (`Sync.selected_iff_mistitled_before`). One thought stored under
such a title is enough to keep every journal with an earlier title from being read
(`Sync.mistitled_issue_freezes`).
-/

namespace ThoughtJournal.Sync

theorem epoch_isIso : Calendar.Date.IsIso ⟨1970, 1, 1⟩ := ⟨by decide, by decide, by decide⟩

theorem text_epoch : Calendar.Date.text ⟨1970, 1, 1⟩ = epoch := by decide

namespace Round

variable {rounds : List Round} {date : Calendar.Date}

/-- The watermark of a store that began empty is before an ISO date after all those listed exactly
when the rows under other titles are. -/
theorem latest_history_lt_iff (iso : date.IsIso)
    (afterEpoch : Calendar.Date.before ⟨1970, 1, 1⟩ date = true)
    (newest : ∀ earlier : Calendar.Date, earlier.IsIso →
      (∃ round ∈ rounds, ∃ other ∈ round.listing, other.title = earlier.text) →
        earlier.before date = true) :
    (history (Faulty.ofStore Memory.empty) rounds).inner.latest < date.text ↔
      ∀ row ∈ (history (Faulty.ofStore Memory.empty) rounds).inner.rows,
        Calendar.IsIsoDate row.date ∨ row.date < date.text := by
  have start : (Faulty.ofStore Memory.empty).inner.Coherent := Memory.coherent_empty
  obtain ⟨added, prolonged, titled⟩ := prolongs_history start rounds
  have rows : (history (Faulty.ofStore Memory.empty) rounds).inner.rows = added := prolonged.rows
  constructor
  · intro lower row member
    exact Or.inr (Text.lt_of_not_lt_of_lt (Memory.not_latest_lt member) lower)
  · intro before
    rcases (history (Faulty.ofStore Memory.empty) rounds).inner.latest_eq_epoch_or_exists with
      ⟨_, unset⟩ | ⟨row, stored, dated⟩
    · rw [unset, ← text_epoch]
      exact epoch_isIso.text_lt_text iso afterEpoch
    · rw [← dated]
      rcases before row stored with ⟨earlier, earlierIso, text⟩ | lower
      · obtain ⟨round, present, other, listed, title⟩ := titled row (rows ▸ stored)
        rw [← text]
        apply earlierIso.text_lt_text iso
        exact newest earlier earlierIso ⟨round, present, other, listed, title.trans text.symm⟩
      · exact lower

end Round

/-- **What a mis-titled issue does.** After incremental syncs that began with an empty store, let
the source list a journal whose title is an ISO date after the epoch and after every ISO date that
was listed before. A sync without limit that learns its watermark selects this journal exactly when
all thoughts that are stored under a title that is no ISO date come before it. What is stored is
dated by titles that were listed, and the database behaves like the store in memory. -/
theorem selected_iff_mistitled_before (rounds : List Round) (next : Round) (date : Calendar.Date)
    (listing : List Journal) (journal : Journal) (iso : date.IsIso)
    (afterEpoch : Calendar.Date.before ⟨1970, 1, 1⟩ date = true)
    (newest : ∀ earlier : Calendar.Date, earlier.IsIso →
      (∃ round ∈ rounds, ∃ other ∈ round.listing, other.title = earlier.text) →
        earlier.before date = true)
    (unlimited : next.limit = none) (answered : next.plan.latest = none)
    (listed : next.source.index = .ok listing) (member : journal ∈ listing)
    (titled : journal.title = date.text) :
    let store := Round.history (Faulty.ofStore Memory.empty) rounds
    let database := Round.history (Faulty.ofStore Relational.empty) rounds
    (∃ report, (next.run store).outcome = .ok report ∧
      (next.run store).fetched = (chosen none report.watermark listing).map Journal.id ∧
      (journal ∈ chosen none report.watermark listing ↔
        ∀ row ∈ store.inner.rows, Calendar.IsIsoDate row.date ∨ row.date < journal.title)) ∧
    (∀ row ∈ store.inner.rows, ∃ round ∈ rounds, ∃ other ∈ round.listing,
      other.title = row.date) ∧
    (next.run database).outcome = (next.run store).outcome ∧
    (next.run database).fetched = (next.run store).fetched := by
  intro store database
  have start : (Faulty.ofStore Memory.empty).inner.Coherent := Memory.coherent_empty
  obtain ⟨added, prolonged, listedBefore⟩ := Round.prolongs_history start rounds
  have rows : store.inner.rows = added := prolonged.rows
  have alike := next.alike_run (Round.alike_history Session.alike_empty rounds)
  have planned : (store.withPlan next.plan).plan.latest = none := answered
  have ending := run_of_listed (watermarkFor_of_answered planned next.options) listed next.taxonomy
  have fetched := (reading_finalProgress next.source next.taxonomy next.options
    (store.withPlan next.plan) store.inner.latest listing).1
  rw [selection_eq_chosen] at fetched
  change _ = (chosen next.limit store.inner.latest listing).map Journal.id at fetched
  rw [unlimited] at fetched
  refine ⟨⟨_, congrArg Run.outcome ending, ?_, ?_⟩, rows ▸ listedBefore, alike.outcome.symm,
    alike.fetched.symm⟩
  · exact (congrArg Run.fetched ending).trans fetched
  · change journal ∈ chosen none store.inner.latest listing ↔ _
    rw [mem_chosen_unlimited, and_iff_right member, titled]
    exact Round.latest_history_lt_iff iso afterEpoch newest

/-- A listing in which every title comes before a day or is of another length than an ISO date. -/
theorem before_of_titles {listing : List Journal} {date : Calendar.Date} (iso : date.IsIso)
    (titles : ∀ other ∈ listing, other.title.length ≠ 10 ∨ other.title < date.text)
    (earlier : Calendar.Date) (earlierIso : earlier.IsIso)
    (listed : ∃ other ∈ listing, other.title = earlier.text) : earlier.before date = true := by
  obtain ⟨other, member, titled⟩ := listed
  rcases titles other member with length | lower
  · rw [titled, earlierIso.length_text] at length
    exact absurd rfl length
  · rw [titled] at lower
    exact (Calendar.text_lt_text_iff earlierIso iso).mp lower

/-- A round of an incremental sync without limit in which nothing but missing bodies fails. -/
def Round.reading (listing : List Journal) (bodies : List (Int × Text)) : Round :=
  ⟨⟨Dictionary.empty⟩, .ofTable listing bodies, .never, false, none⟩

/-- Of two mis-titled issues one is stored under a title before all dates and the other has no
thoughts, so the next journal is selected. -/
theorem selected_after_harmless_titles :
    let listing : List Journal :=
      [⟨3, "zzz".toList⟩, ⟨2, "2025 review".toList⟩, ⟨1, "2026-02-18".toList⟩]
    let bodies := [(1, "## Area\n- a".toList), (2, "## Area\n- b".toList), (3, "- c".toList)]
    let rounds := [Round.reading (listing.drop 1) bodies, Round.reading listing bodies]
    let journal : Journal := ⟨4, "2026-02-19".toList⟩
    let next := Round.reading (journal :: listing) bodies
    let store := Round.history (Faulty.ofStore Memory.empty) rounds
    store.inner.rows.map Thought.date = ["2025 review".toList, "2026-02-18".toList] ∧
      ∃ report, (next.run store).outcome = .ok report ∧
        journal ∈ chosen none report.watermark (journal :: listing) := by
  intro listing bodies rounds journal next store
  refine ⟨by decide +kernel, ?_⟩
  have iso : Calendar.Date.IsIso ⟨2026, 2, 19⟩ := ⟨by decide, by decide, by decide⟩
  have newest : ∀ earlier : Calendar.Date, earlier.IsIso →
      (∃ round ∈ rounds, ∃ other ∈ round.listing, other.title = earlier.text) →
        earlier.before ⟨2026, 2, 19⟩ = true := by
    have titles : ∀ round ∈ rounds, ∀ other ∈ round.listing,
        other.title.length ≠ 10 ∨ other.title < Calendar.Date.text ⟨2026, 2, 19⟩ := by
      decide +kernel
    rintro earlier earlierIso ⟨round, member, listed⟩
    exact before_of_titles iso (titles round member) earlier earlierIso listed
  obtain ⟨⟨report, reported, _, selected⟩, _⟩ :=
    selected_iff_mistitled_before rounds next ⟨2026, 2, 19⟩ (journal :: listing) journal iso
      (by decide) newest rfl rfl rfl List.mem_cons_self (by decide +kernel)
  have lower : ∀ row ∈ (Round.history (Faulty.ofStore Memory.empty) rounds).inner.rows,
      row.date < journal.title := by decide +kernel
  refine ⟨report, reported, ?_⟩
  rw [selected]
  intro row stored
  exact Or.inr (lower row stored)

/-- A thought stored under the title `Ideas` keeps a journal with a later date from being read. -/
theorem mistitled_issue_freezes :
    let listing : List Journal := [⟨2, "Ideas".toList⟩, ⟨1, "2026-02-18".toList⟩]
    let bodies :=
      [(1, "## Area\n- a".toList), (2, "## Area\n- b".toList), (3, "## Area\n- c".toList)]
    let first := Round.reading listing bodies
    let date : Calendar.Date := ⟨2026, 2, 19⟩
    let next := Round.reading (⟨3, date.text⟩ :: listing) bodies
    let store := Round.history (Faulty.ofStore Memory.empty) [first]
    date.IsIso ∧ Calendar.Date.before ⟨1970, 1, 1⟩ date = true ∧
      (∀ earlier : Calendar.Date, earlier.IsIso →
        (∃ other ∈ first.listing, other.title = earlier.text) → earlier.before date = true) ∧
      (next.run store).fetched = [] ∧
      ∃ report, (next.run store).outcome = .ok report ∧
        ¬ ⟨3, date.text⟩ ∈ chosen none report.watermark (⟨3, date.text⟩ :: listing) := by
  intro listing bodies first date next store
  have iso : date.IsIso := ⟨by decide, by decide, by decide⟩
  refine ⟨iso, by decide, ?_, by decide +kernel, _, rfl, ?_⟩
  · exact before_of_titles iso (by decide +kernel)
  · decide +kernel

end ThoughtJournal.Sync
