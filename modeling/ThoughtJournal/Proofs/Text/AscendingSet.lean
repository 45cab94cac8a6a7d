import Mathlib.Data.List.Nodup
import ThoughtJournal.Text.Order

/-! # The ascending listing of a set

A set of texts has exactly one ascending listing (`Text.eq_of_ascending`). So the listing depends on
the members of a list alone (`Text.ascendingSet_congr`), and a listing is its own listing
(`Text.ascendingSet_of_ascending`).
-/

namespace ThoughtJournal.Text

/-- A set of texts has one ascending listing. -/
theorem eq_of_ascending {left right : List Text} (leftAscending : left.Pairwise (· < ·))
    (rightAscending : right.Pairwise (· < ·)) (same : ∀ text, text ∈ left ↔ text ∈ right) :
    left = right := by
  have perm : left.Perm right := by
    apply (List.perm_ext_iff_of_nodup _ _).mpr same
    · exact leftAscending.imp fun lower => ne_of_lt lower
    · exact rightAscending.imp fun lower => ne_of_lt lower
  apply List.Perm.eq_of_pairwise _ leftAscending rightAscending perm
  intro first second _ _ lower upper
  exact absurd upper (List.lt_asymm lower)

/-- The order of a list and repetitions in it do not matter. -/
theorem ascendingSet_congr {left right : List Text} (same : ∀ text, text ∈ left ↔ text ∈ right) :
    ascendingSet left = ascendingSet right := by
  apply eq_of_ascending (ascendingSet_ascending left) (ascendingSet_ascending right)
  intro text
  rw [mem_ascendingSet, mem_ascendingSet, same]

/-- An ascending list is its own listing. -/
theorem ascendingSet_of_ascending {texts : List Text} (ascending : texts.Pairwise (· < ·)) :
    ascendingSet texts = texts :=
  eq_of_ascending (ascendingSet_ascending texts) ascending fun text => mem_ascendingSet text texts

end ThoughtJournal.Text
