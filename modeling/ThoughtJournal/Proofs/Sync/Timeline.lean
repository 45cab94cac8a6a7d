import ThoughtJournal.Proofs.Sync.Faultless

/-! # Journals in the order of their titles

A date cuts a list of journals in which every journal is titled after the ones before it into the
journals titled no later and the ones titled later (`Sync.Ordered.cut`). A sync selects the later
part (`Sync.selectDelta_eq_newerThan`).

A store does not know which journals it has read, only the latest date among its rows. When it has
added the thoughts of some journals in this order to its rows, that date tells nothing too much: the
journals that come after them are titled later (`Sync.latest_lt_title`), and the ones titled no later
account for all rows that were added (`Sync.additions_datedUpTo`).
-/

namespace ThoughtJournal.Sync

/-- The journals titled after a date, in order. -/
def newerThan (date : Text) (tracker : List Journal) : List Journal :=
  tracker.filter fun journal => date < journal.title

/-- The journals titled no later than a date, in order. -/
def datedUpTo (date : Text) (tracker : List Journal) : List Journal :=
  tracker.filter fun journal => ¬ date < journal.title

/-- Every journal is titled after the ones before it. -/
def Ordered (tracker : List Journal) : Prop :=
  tracker.Pairwise fun earlier later => earlier.title < later.title

theorem mem_newerThan {date : Text} {tracker : List Journal} {journal : Journal} :
    journal ∈ newerThan date tracker ↔ journal ∈ tracker ∧ date < journal.title := by
  unfold newerThan
  rw [List.mem_filter, decide_eq_true_eq]

theorem mem_datedUpTo {date : Text} {tracker : List Journal} {journal : Journal} :
    journal ∈ datedUpTo date tracker ↔ journal ∈ tracker ∧ ¬ date < journal.title := by
  unfold datedUpTo
  rw [List.mem_filter, decide_eq_true_eq]

/-- Journals titled after a date do not count up to it. -/
theorem datedUpTo_append_of_newer {date : Text} {later : List Journal}
    (newer : ∀ journal ∈ later, date < journal.title) (earlier : List Journal) :
    datedUpTo date (earlier ++ later) = datedUpTo date earlier := by
  have none : datedUpTo date later = [] := by
    rw [List.eq_nil_iff_forall_not_mem]
    intro journal member
    obtain ⟨present, old⟩ := mem_datedUpTo.mp member
    exact old (newer journal present)
  unfold datedUpTo at none ⊢
  rw [List.filter_append, none, List.append_nil]

/-- Journals titled after a date stay behind the earlier ones that are titled after it. -/
theorem newerThan_append_of_newer {date : Text} {later : List Journal}
    (newer : ∀ journal ∈ later, date < journal.title) (earlier : List Journal) :
    newerThan date (earlier ++ later) = newerThan date earlier ++ later := by
  have all : newerThan date later = later :=
    List.filter_eq_self.mpr fun journal member => decide_eq_true (newer journal member)
  unfold newerThan at all ⊢
  rw [List.filter_append, all]

/-- Of two dates the later one decides. -/
theorem newerThan_newerThan {start date : Text} (notBefore : ¬ date < start)
    (tracker : List Journal) :
    newerThan date (newerThan start tracker) = newerThan date tracker := by
  unfold newerThan
  rw [List.filter_filter]
  apply List.filter_congr
  intro journal _
  have implied : date < journal.title → start < journal.title := Text.lt_of_not_lt_of_lt notBefore
  rw [← Bool.decide_and]
  exact decide_eq_decide.mpr ⟨And.left, fun newer => ⟨newer, implied newer⟩⟩

namespace Ordered

variable {tracker : List Journal}

theorem ascending (ordered : Ordered tracker) : Journal.Ascending tracker :=
  ordered.imp List.lt_asymm

theorem sublist (ordered : Ordered tracker) {part : List Journal} (kept : part.Sublist tracker) :
    Ordered part := List.Pairwise.sublist kept ordered

/-- No two journals each titled after the ones before have the same title. -/
theorem nodup_titles (ordered : Ordered tracker) : (tracker.map Journal.title).Nodup :=
  List.pairwise_map.mpr (ordered.imp fun lower => Text.ne_of_lt lower)

/-- A journal titled after all others can be put at the end. -/
theorem concat (ordered : Ordered tracker) {journal : Journal}
    (last : ∀ earlier ∈ tracker, earlier.title < journal.title) :
    Ordered (tracker ++ [journal]) := by
  refine List.pairwise_append.mpr ⟨ordered, List.pairwise_singleton _ _, ?_⟩
  intro earlier member later singleton
  rw [List.mem_singleton] at singleton
  exact singleton ▸ last earlier member

/-- A date cuts ordered journals into those titled no later and those titled later. -/
theorem cut (ordered : Ordered tracker) (date : Text) :
    datedUpTo date tracker ++ newerThan date tracker = tracker := by
  unfold datedUpTo newerThan
  induction tracker with
  | nil => rfl
  | cons journal rest ih =>
      obtain ⟨least, tail⟩ := List.pairwise_cons.mp ordered
      by_cases newer : date < journal.title
      · have allNewer : ∀ later ∈ journal :: rest, date < later.title := by
          intro later member
          rcases List.mem_cons.mp member with rfl | member
          · exact newer
          · exact List.lt_trans newer (least later member)
        have noneBefore : (journal :: rest).filter (fun later => ¬ date < later.title) = [] := by
          rw [List.filter_eq_nil_iff]
          intro later member
          simp only [allNewer later member, not_true_eq_false, decide_false, Bool.false_eq_true,
            not_false_eq_true]
        rw [noneBefore, List.nil_append, List.filter_eq_self]
        exact fun later member => decide_eq_true (allNewer later member)
      · simp only [List.filter_cons, newer, not_false_eq_true, decide_true, decide_false,
          ↓reduceIte, Bool.false_eq_true, List.cons_append]
        rw [ih tail]

end Ordered

/-! ## Selections -/

/-- Sorted journals with distinct titles are each titled after the ones before. -/
theorem ordered_sortByTitle {listing : List Journal}
    (distinct : (listing.map Journal.title).Nodup) : Ordered (Journal.sortByTitle listing) := by
  have titles : ((Journal.sortByTitle listing).map Journal.title).Nodup :=
    ((Journal.sortByTitle_perm listing).map Journal.title).nodup_iff.mpr distinct
  refine ((Journal.sortByTitle_ascending listing).and (List.pairwise_map.mp titles)).imp ?_
  rintro earlier later ⟨notAfter, different⟩
  rcases Text.lt_trichotomy earlier.title later.title with lower | same | upper
  · exact lower
  · exact absurd same different
  · exact absurd upper notAfter

/-- A listing with the newer journals of an ordered tracker gives them in the tracker's order. -/
theorem selectDelta_of_perm {tracker listing : List Journal} (ordered : Ordered tracker)
    {date : Text} (selected : (newerThan date listing).Perm (newerThan date tracker)) :
    Journal.selectDelta date listing = newerThan date tracker := by
  have suffix : Ordered (newerThan date tracker) := ordered.sublist List.filter_sublist
  calc Journal.selectDelta date listing
      = Journal.sortByTitle (newerThan date listing) := rfl
    _ = Journal.sortByTitle (newerThan date tracker) :=
        Journal.sortByTitle_congr selected
          ((selected.map Journal.title).nodup_iff.mpr suffix.nodup_titles)
    _ = newerThan date tracker := Journal.sortByTitle_of_ascending suffix.ascending

/-- What is selected is the part of the sorted listing after the date. -/
theorem selectDelta_eq_newerThan {listing : List Journal}
    (distinct : (listing.map Journal.title).Nodup) (date : Text) :
    Journal.selectDelta date listing = newerThan date (Journal.sortByTitle listing) :=
  selectDelta_of_perm (ordered_sortByTitle distinct)
    ((Journal.sortByTitle_perm listing).symm.filter _)

/-- Selected journals with distinct titles are each titled after the ones before. -/
theorem ordered_selectDelta {listing : List Journal}
    (distinct : (listing.map Journal.title).Nodup) (date : Text) :
    Ordered (Journal.selectDelta date listing) := by
  rw [selectDelta_eq_newerThan distinct]
  exact (ordered_sortByTitle distinct).sublist List.filter_sublist

/-- A later date selects the part of a selection that is titled after it. -/
theorem selectDelta_of_not_lt {listing : List Journal}
    (distinct : (listing.map Journal.title).Nodup) {start date : Text}
    (notBefore : ¬ date < start) :
    Journal.selectDelta date listing = newerThan date (Journal.selectDelta start listing) := by
  rw [selectDelta_eq_newerThan distinct, selectDelta_eq_newerThan distinct,
    newerThan_newerThan notBefore]

theorem listed_of_split {listing selected : List Journal} {date : Text}
    (split : Journal.selectDelta date listing = selected) {journal : Journal}
    (member : journal ∈ selected) : journal ∈ listing ∧ date < journal.title :=
  mem_selectDelta.mp (split ▸ member)

/-- Every journal of an earlier part of the selection is titled before every one of a later part. -/
theorem title_lt_of_split {listing first second : List Journal} {date : Text}
    (distinct : (listing.map Journal.title).Nodup)
    (split : Journal.selectDelta date listing = first ++ second) {earlier later : Journal}
    (before : earlier ∈ first) (after : later ∈ second) : earlier.title < later.title := by
  have ordered : Ordered (first ++ second) := split ▸ ordered_selectDelta distinct date
  exact (List.pairwise_append.mp ordered).2.2 earlier before later after

/-! ## What the latest row tells -/

section

variable {taxonomy : Taxonomy} {bodies : Int → Text}

/-- Every thought of journals has the title of one of them for its date. -/
theorem exists_title_of_mem_thoughtsOf {journals : List Journal} {thought : Thought}
    (extracted : thought ∈ thoughtsOf taxonomy bodies journals) :
    ∃ journal ∈ journals, thought.date = journal.title := by
  obtain ⟨journal, member, extracted⟩ := List.mem_flatMap.mp extracted
  exact ⟨journal, member, Taxonomy.date_of_mem_atomize extracted⟩

/-- A title after all dates of a store is after its latest date when it has added the thoughts of
journals titled earlier. -/
theorem latest_lt_title {base store : Memory} {read : List Journal}
    (rows : store.rows =
      base.rows ++ Thought.additions base.rows (thoughtsOf taxonomy bodies read))
    {title : Text} (afterBase : base.latest < title)
    (afterRead : ∀ journal ∈ read, journal.title < title) : store.latest < title := by
  apply Memory.latest_lt_of_rows rows afterBase
  intro thought added
  obtain ⟨journal, member, dated⟩ :=
    exists_title_of_mem_thoughtsOf (Thought.mem_of_mem_additions added)
  exact dated ▸ afterRead journal member

/-- The journals that a store has read but that are titled after its latest row have added nothing
to it. -/
theorem additions_datedUpTo {rows : List Thought} {read : List Journal} (ordered : Ordered read)
    {store : Memory}
    (appended : store.rows = rows ++ Thought.additions rows (thoughtsOf taxonomy bodies read)) :
    Thought.additions rows (thoughtsOf taxonomy bodies (datedUpTo store.latest read)) =
      Thought.additions rows (thoughtsOf taxonomy bodies read) := by
  have split := Thought.additions_append rows
    (thoughtsOf taxonomy bodies (datedUpTo store.latest read))
    (thoughtsOf taxonomy bodies (newerThan store.latest read))
  rw [← thoughtsOf_append, ordered.cut] at split
  have nothing : Thought.additions
      (rows ++ Thought.additions rows (thoughtsOf taxonomy bodies (datedUpTo store.latest read)))
      (thoughtsOf taxonomy bodies (newerThan store.latest read)) = [] := by
    rw [List.eq_nil_iff_forall_not_mem]
    intro row added
    obtain ⟨journal, member, dated⟩ :=
      exists_title_of_mem_thoughtsOf (Thought.mem_of_mem_additions added)
    have stored : row ∈ store.rows := by
      rw [appended, split]
      exact List.mem_append_right _ (List.mem_append_right _ added)
    exact Memory.not_latest_lt stored (dated ▸ (mem_newerThan.mp member).2)
  rw [split, nothing, List.append_nil]

end

end ThoughtJournal.Sync
