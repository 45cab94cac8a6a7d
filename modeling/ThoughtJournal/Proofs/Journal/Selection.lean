import ThoughtJournal.Proofs.Calendar.IsoDate
import ThoughtJournal.Proofs.Journal.TitleOrder

/-! # The selected journals

A selection by a key takes the journals whose key comes after a watermark, in ascending order of the
keys, and journals with the same key in the order of the listing (`Journal.IsSelection`). Two keys
that order the journals of a listing alike have the same selections (`Journal.IsSelection.congr`).

The journals that a sync reads are the only selection by title, and if all titles are ISO dates, the
only selection by date (`Journal.eq_selectDelta_iff_isSelection`).
-/

namespace ThoughtJournal.Journal

/-! ## Selections -/

/-- The journals of a listing whose keys come after a watermark, as often as they are listed, in
ascending order of their keys, and with equal keys in the order of the listing. -/
structure IsSelection {κ : Type} [DecidableEq κ] (key : Journal → κ) (before : κ → κ → Bool)
    (watermark : κ) (journals selected : List Journal) : Prop where
  perm : selected.Perm (journals.filter fun journal => before watermark (key journal))
  ascending : selected.Pairwise fun earlier later => before (key later) (key earlier) = false
  stable : ∀ value, selected.filter (key · = value) =
    (journals.filter fun journal => before watermark (key journal)).filter (key · = value)

variable {κ μ : Type} {key : Journal → κ} {name : Journal → μ} {before : κ → κ → Bool}
  {earlier : μ → μ → Bool} {watermark : κ} {start : μ} {journals selected : List Journal}

/-- Two keys that put the journals of a listing, and a watermark, into the same order. -/
structure OrderedAlike (key : Journal → κ) (before : κ → κ → Bool) (watermark : κ)
    (name : Journal → μ) (earlier : μ → μ → Bool) (start : μ) (journals : List Journal) : Prop where
  wanted : ∀ journal ∈ journals, before watermark (key journal) = earlier start (name journal)
  ordered : ∀ first ∈ journals, ∀ second ∈ journals,
    before (key first) (key second) = earlier (name first) (name second)
  tied : ∀ first ∈ journals, ∀ second ∈ journals, key first = key second ↔ name first = name second

theorem OrderedAlike.symm (alike : OrderedAlike key before watermark name earlier start journals) :
    OrderedAlike name earlier start key before watermark journals where
  wanted journal member := (alike.wanted journal member).symm
  ordered first member second other := (alike.ordered first member second other).symm
  tied first member second other := (alike.tied first member second other).symm

variable [DecidableEq κ] [DecidableEq μ]

theorem IsSelection.listed (selection : IsSelection key before watermark journals selected) :
    ∀ journal ∈ selected, journal ∈ journals := fun _ member =>
  (List.mem_filter.mp (selection.perm.mem_iff.mp member)).1

/-- Among listed journals a value of one key picks the journals that a value of the other key picks,
or none at all. -/
theorem OrderedAlike.filter_eq
    (alike : OrderedAlike key before watermark name earlier start journals)
    {left right : List Journal} (leftListed : ∀ journal ∈ left, journal ∈ journals)
    (rightListed : ∀ journal ∈ right, journal ∈ journals)
    (same : ∀ value, left.filter (key · = value) = right.filter (key · = value)) (value : μ) :
    left.filter (name · = value) = right.filter (name · = value) := by
  by_cases present : ∃ journal ∈ journals, name journal = value
  · obtain ⟨journal, member, rfl⟩ := present
    have byKey : ∀ others : List Journal, (∀ other ∈ others, other ∈ journals) →
        others.filter (name · = name journal) = others.filter (key · = key journal) :=
      fun others listed => List.filter_congr fun other origin =>
        decide_eq_decide.mpr (alike.tied other (listed other origin) journal member).symm
    rw [byKey left leftListed, byKey right rightListed, same]
  · have none : ∀ others : List Journal, (∀ other ∈ others, other ∈ journals) →
        others.filter (name · = value) = [] :=
      fun others listed => List.filter_eq_nil_iff.mpr fun other origin named =>
        present ⟨other, listed other origin, of_decide_eq_true named⟩
    rw [none left leftListed, none right rightListed]

/-- A selection by one key is a selection by every key that orders the journals alike. -/
theorem IsSelection.congr (selection : IsSelection key before watermark journals selected)
    (alike : OrderedAlike key before watermark name earlier start journals) :
    IsSelection name earlier start journals selected := by
  have wanted : (journals.filter fun journal => earlier start (name journal)) =
      journals.filter fun journal => before watermark (key journal) :=
    List.filter_congr fun journal member => (alike.wanted journal member).symm
  refine ⟨wanted ▸ selection.perm, ?_, fun value => ?_⟩
  · exact selection.ascending.imp_of_mem fun first second notAfter =>
      (alike.ordered _ (selection.listed _ second) _ (selection.listed _ first)) ▸ notAfter
  · rw [wanted]
    exact alike.filter_eq selection.listed (fun _ member => (List.mem_filter.mp member).1)
      selection.stable value

/-! ## The journals that are read -/

/-- The selected journals are the ones after the watermark, in the order of their titles. -/
theorem isSelection_selectDelta (watermark : Text) (journals : List Journal) :
    IsSelection title Text.before watermark journals (selectDelta watermark journals) where
  perm := sortByTitle_perm _
  ascending := (sortByTitle_ascending _).imp fun notAfter =>
    Bool.eq_false_iff.mpr fun lower => notAfter ((Text.before_iff _ _).mp lower)
  stable title := filter_title_sortByTitle title _

/-- There is only one selection by title. -/
theorem IsSelection.eq_selectDelta {watermark : Text} {journals selected : List Journal}
    (selection : IsSelection title Text.before watermark journals selected) :
    selected = selectDelta watermark journals := by
  have ascending : Ascending selected := selection.ascending.imp fun notAfter lower =>
    Bool.eq_false_iff.mp notAfter ((Text.before_iff _ _).mpr lower)
  apply eq_of_ascending ascending (sortByTitle_ascending _)
  intro title
  exact (selection.stable title).trans
    ((isSelection_selectDelta watermark journals).stable title).symm

/-- ISO dates as titles and watermark are ordered like their days. -/
theorem orderedAlike_of_dates {today : Calendar.Date} {date : Journal → Calendar.Date}
    (iso : today.IsIso)
    (dated : ∀ journal ∈ journals, (date journal).IsIso ∧ (date journal).text = journal.title) :
    OrderedAlike title Text.before today.text date Calendar.Date.before today journals where
  wanted journal member := by
    obtain ⟨dateIso, titled⟩ := dated journal member
    rw [← titled, Calendar.before_eq_before_text iso dateIso]
  ordered first member second other := by
    obtain ⟨firstIso, firstTitled⟩ := dated first member
    obtain ⟨secondIso, secondTitled⟩ := dated second other
    rw [← firstTitled, ← secondTitled, Calendar.before_eq_before_text firstIso secondIso]
  tied first member second other := by
    obtain ⟨firstIso, firstTitled⟩ := dated first member
    obtain ⟨secondIso, secondTitled⟩ := dated second other
    rw [← firstTitled, ← secondTitled, Calendar.text_inj firstIso secondIso]

/-- **Journals are selected by title, and so by date.** The journals that are read are the only
selection of the listing by title. If the titles and the watermark are zero-padded ISO dates, they
are the only selection by the days of these dates. -/
theorem eq_selectDelta_iff_isSelection (watermark : Text) (journals selected : List Journal) :
    (selected = selectDelta watermark journals ↔
      IsSelection title Text.before watermark journals selected) ∧
    ∀ (today : Calendar.Date) (date : Journal → Calendar.Date),
      today.IsIso → today.text = watermark →
      (∀ journal ∈ journals, (date journal).IsIso ∧ (date journal).text = journal.title) →
      (selected = selectDelta watermark journals ↔
        IsSelection date Calendar.Date.before today journals selected) := by
  have byTitle : selected = selectDelta watermark journals ↔
      IsSelection title Text.before watermark journals selected := by
    constructor
    · rintro rfl
      exact isSelection_selectDelta watermark journals
    · exact IsSelection.eq_selectDelta
  refine ⟨byTitle, ?_⟩
  rintro today date iso rfl dated
  have alike := orderedAlike_of_dates iso dated
  rw [byTitle]
  constructor
  · intro selection
    exact selection.congr alike
  · intro selection
    exact selection.congr alike.symm

/-- A listing that is not in order, with a leap day of the year 0, the last day of the year 9999,
and a journal listed twice around another one of the same day. -/
theorem eq_selectDelta_iff_isSelection_of_dates :
    let watermark := "0000-02-28".toList
    let today : Calendar.Date := ⟨0, 2, 28⟩
    let date (journal : Journal) := (Calendar.parse? journal.title).getD today
    let twice : Journal := ⟨2, "2026-02-19".toList⟩
    let other : Journal := ⟨7, "2026-02-19".toList⟩
    let first : Journal := ⟨4, "0000-02-29".toList⟩
    let last : Journal := ⟨5, "9999-12-31".toList⟩
    let journals := [last, twice, ⟨3, watermark⟩, other, first, twice]
    today.IsIso ∧ today.text = watermark ∧
      (∀ journal ∈ journals, (date journal).IsIso ∧ (date journal).text = journal.title) ∧
      [first, twice, other, twice, last] = selectDelta watermark journals ∧
      IsSelection date Calendar.Date.before today journals [first, twice, other, twice, last] := by
  intro watermark today date twice other first last journals
  have iso : today.IsIso := ⟨by decide, by decide, by decide⟩
  have written : today.text = watermark := by decide +kernel
  have dated : ∀ journal ∈ journals,
      (date journal).IsIso ∧ (date journal).text = journal.title := by
    have valid : ∀ journal ∈ journals, ((date journal).isValid = true ∧ 0 ≤ (date journal).year ∧
        (date journal).year ≤ 9999) ∧ (date journal).text = journal.title := by decide +kernel
    intro journal member
    obtain ⟨⟨valid, nonnegative, fourDigits⟩, titled⟩ := valid journal member
    exact ⟨⟨valid, nonnegative, fourDigits⟩, titled⟩
  have selected : [first, twice, other, twice, last] = selectDelta watermark journals := by
    decide +kernel
  have byDate := (eq_selectDelta_iff_isSelection watermark journals
    [first, twice, other, twice, last]).2 today date iso written dated
  exact ⟨iso, written, dated, selected, byDate.mp selected⟩

end ThoughtJournal.Journal
