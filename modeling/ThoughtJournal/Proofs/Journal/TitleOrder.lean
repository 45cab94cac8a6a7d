import Mathlib.Data.List.Nodup
import ThoughtJournal.Journal

/-! # Journals in the order of their titles

Sorting by title gives the only list with the same journals that is ascending and keeps the order
among equal titles: two ascending lists that agree on the journals of every title are equal
(`Journal.eq_of_ascending`). So it is any stable sort, in particular the merge sort of the standard
library (`Journal.sortByTitle_eq_mergeSort`), it leaves an ascending list as it is, and with distinct
titles it gives the same list for every order of the listing (`Journal.sortByTitle_congr`).
-/

namespace ThoughtJournal.Journal

/-- No journal comes after one with a later title. -/
def Ascending (journals : List Journal) : Prop :=
  journals.Pairwise fun earlier later => ¬ later.title < earlier.title

/-- A journal is put in at its place in the order. -/
theorem insertByTitle_ascending (journal : Journal) {journals : List Journal}
    (ascending : Ascending journals) : Ascending (insertByTitle journal journals) := by
  induction journals with
  | nil => exact List.pairwise_singleton _ _
  | cons head rest ih =>
      obtain ⟨least, tail⟩ := List.pairwise_cons.mp ascending
      unfold insertByTitle
      split
      · rename_i first
        have first := (Text.before_iff _ _).mp first
        refine List.pairwise_cons.mpr ⟨fun other member => ?_, ih tail⟩
        rcases List.mem_cons.mp ((insertByTitle_perm journal rest).mem_iff.mp member) with
          same | member
        · exact same ▸ List.lt_asymm first
        · exact least other member
      · rename_i notFirst
        have notFirst : ¬ head.title < journal.title :=
          fun first => notFirst ((Text.before_iff _ _).mpr first)
        refine List.pairwise_cons.mpr ⟨fun other member => ?_, ascending⟩
        rcases List.mem_cons.mp member with same | member
        · exact same ▸ notFirst
        · exact fun lower => least other member (Text.lt_of_lt_of_not_lt lower notFirst)

/-- Sorted journals are in the order of their titles. -/
theorem sortByTitle_ascending (journals : List Journal) : Ascending (sortByTitle journals) := by
  induction journals with
  | nil => exact List.Pairwise.nil
  | cons journal rest ih => exact insertByTitle_ascending journal ih

/-- A journal is put in front of the journals with its own title. -/
theorem filter_title_insertByTitle (title : Text) (journal : Journal) (journals : List Journal) :
    (insertByTitle journal journals).filter (·.title = title) =
      (journal :: journals).filter (·.title = title) := by
  induction journals with
  | nil => rfl
  | cons head rest ih =>
      unfold insertByTitle
      split
      · rename_i first
        have first := (Text.before_iff _ _).mp first
        have different : ¬ (head.title = title ∧ journal.title = title) := by
          rintro ⟨rfl, same⟩
          exact List.lt_irrefl _ (same ▸ first)
        rw [List.filter_cons, ih]
        by_cases named : head.title = title
        · have other : journal.title ≠ title := fun same => different ⟨named, same⟩
          simp only [List.filter_cons, named, other, decide_true, decide_false, ↓reduceIte,
            Bool.false_eq_true]
        · simp only [List.filter_cons, named, decide_false, Bool.false_eq_true, ↓reduceIte]
      · rfl

/-- Sorting keeps the order among equal titles. -/
theorem filter_title_sortByTitle (title : Text) (journals : List Journal) :
    (sortByTitle journals).filter (·.title = title) = journals.filter (·.title = title) := by
  induction journals with
  | nil => rfl
  | cons journal rest ih =>
      rw [sortByTitle_cons, filter_title_insertByTitle, List.filter_cons, List.filter_cons, ih]

/-- The title at the head of an ascending list is a title of every list with the same journals of
each title, and no title of that list comes before it. -/
private theorem head_title_le {journal other : Journal} {left right : List Journal}
    (ascending : Ascending (journal :: left))
    (agree : ∀ title, (journal :: left).filter (·.title = title) =
      (other :: right).filter (·.title = title)) : ¬ other.title < journal.title := by
  intro lower
  have present : other ∈ (journal :: left).filter (·.title = other.title) := by
    rw [agree]
    exact List.mem_filter.mpr ⟨List.mem_cons_self, decide_eq_true rfl⟩
  rcases List.mem_cons.mp (List.mem_filter.mp present).1 with same | member
  · exact List.lt_irrefl _ (same ▸ lower)
  · exact (List.pairwise_cons.mp ascending).1 other member lower

/-- **Uniqueness of the stable order.** Two ascending lists that agree on the journals of every title
are equal. -/
theorem eq_of_ascending {left right : List Journal} (leftAscending : Ascending left)
    (rightAscending : Ascending right)
    (agree : ∀ title, left.filter (·.title = title) = right.filter (·.title = title)) :
    left = right := by
  induction left generalizing right with
  | nil =>
      cases right with
      | nil => rfl
      | cons other right =>
          have absent := agree other.title
          rw [List.filter_nil, List.filter_cons, if_pos (decide_eq_true rfl)] at absent
          exact (List.cons_ne_nil _ _ absent.symm).elim
  | cons journal left ih =>
      cases right with
      | nil =>
          have absent := agree journal.title
          rw [List.filter_nil, List.filter_cons, if_pos (decide_eq_true rfl)] at absent
          exact (List.cons_ne_nil _ _ absent).elim
      | cons other right =>
          have title : other.title = journal.title :=
            Text.eq_of_not_lt (head_title_le leftAscending agree)
              (head_title_le rightAscending fun title => (agree title).symm)
          have heads := agree journal.title
          rw [List.filter_cons, List.filter_cons, if_pos (decide_eq_true rfl),
            if_pos (decide_eq_true title)] at heads
          obtain ⟨same, _⟩ := List.cons.inj heads
          subst same
          rw [ih (List.pairwise_cons.mp leftAscending).2 (List.pairwise_cons.mp rightAscending).2]
          intro name
          have tails := agree name
          rw [List.filter_cons, List.filter_cons] at tails
          by_cases named : journal.title = name
          · rw [if_pos (decide_eq_true named), if_pos (decide_eq_true named)] at tails
            exact (List.cons.inj tails).2
          · simpa only [named, decide_false, Bool.false_eq_true, ↓reduceIte] using tails

/-- An ascending list is its own sorted form. -/
theorem sortByTitle_of_ascending {journals : List Journal} (ascending : Ascending journals) :
    sortByTitle journals = journals :=
  eq_of_ascending (sortByTitle_ascending journals) ascending fun title =>
    filter_title_sortByTitle title journals

/-- With distinct titles the order of the listing does not matter. -/
theorem sortByTitle_congr {left right : List Journal} (rearranged : left.Perm right)
    (distinct : (left.map title).Nodup) : sortByTitle left = sortByTitle right := by
  have leftPerm := sortByTitle_perm left
  have rightPerm := sortByTitle_perm right
  refine List.Perm.eq_of_pairwise ?_ (sortByTitle_ascending left) (sortByTitle_ascending right)
    (leftPerm.trans (rearranged.trans rightPerm.symm))
  intro first second firstMember secondMember notAfter notBefore
  have same : first.title = second.title := Text.eq_of_not_lt notBefore notAfter
  have firstListed := leftPerm.mem_iff.mp firstMember
  have secondListed := rearranged.mem_iff.mpr (rightPerm.mem_iff.mp secondMember)
  exact List.inj_on_of_nodup_map distinct firstListed secondListed same

/-- The merge sort by title of the standard library, which is stable. -/
theorem sortByTitle_eq_mergeSort (journals : List Journal) :
    sortByTitle journals =
      journals.mergeSort fun first second => !Text.before second.title first.title := by
  have transitive : ∀ first second third : Journal,
      (!Text.before second.title first.title) = true →
        (!Text.before third.title second.title) = true →
          (!Text.before third.title first.title) = true :=
    fun _ _ _ => Text.not_before_trans
  have total : ∀ first second : Journal,
      ((!Text.before second.title first.title) || (!Text.before first.title second.title)) =
        true :=
    fun first second => Text.not_before_total first.title second.title
  apply eq_of_ascending (sortByTitle_ascending journals)
  · exact (List.pairwise_mergeSort transitive total journals).imp fun ordered =>
      (Text.not_before_iff _ _).mp ordered
  · intro title
    rw [filter_title_sortByTitle]
    -- The journals of one title are a sorted part of the listing, so merging keeps their order.
    have sorted : (journals.filter (·.title = title)).Pairwise
        fun first second => (!Text.before second.title first.title) = true := by
      rw [List.pairwise_filter]
      refine List.pairwise_of_forall fun first second => ?_
      intro firstNamed secondNamed
      rw [Text.not_before_iff, of_decide_eq_true firstNamed, of_decide_eq_true secondNamed]
      exact List.lt_irrefl title
    have kept := (List.sublist_mergeSort transitive total sorted List.filter_sublist).filter
      (·.title = title)
    rw [List.filter_filter] at kept
    simp only [Bool.and_self] at kept
    exact kept.eq_of_length ((List.mergeSort_perm journals _).filter _).length_eq.symm

end ThoughtJournal.Journal
