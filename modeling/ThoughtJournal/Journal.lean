import ThoughtJournal.Text.Order

/-! # Journals

A tracker lists journals, each under a number and a title. A title is meant to be a date, but any
text can occur. The journals worth reading are those titled after a watermark, and they are read in
ascending order of their titles, journals with the same title in the order of the listing.
-/

namespace ThoughtJournal

/-- The date before every journal, which stands for the watermark of a store without thoughts. -/
def epoch : Text := ['1', '9', '7', '0', '-', '0', '1', '-', '0', '1']

/-- A journal as a tracker lists it. -/
structure Journal where
  id : Int
  title : Text
deriving DecidableEq, Repr

namespace Journal

/-- A journal put in front of the first journal with the same or a later title. -/
def insertByTitle (journal : Journal) : List Journal → List Journal
  | [] => [journal]
  | head :: rest =>
      if Text.before head.title journal.title then head :: insertByTitle journal rest
      else journal :: head :: rest

/-- The journals in ascending order of their titles; the order among equal titles is kept. -/
def sortByTitle (journals : List Journal) : List Journal := journals.foldr insertByTitle []

/-- Whether a journal is titled after the watermark. -/
def isAfter (watermark : Text) (journal : Journal) : Bool := Text.before watermark journal.title

/-- The journals titled after the watermark, in ascending order of their titles. -/
def selectDelta (watermark : Text) (journals : List Journal) : List Journal :=
  sortByTitle (journals.filter (isAfter watermark))

@[simp] theorem sortByTitle_cons (journal : Journal) (rest : List Journal) :
    sortByTitle (journal :: rest) = insertByTitle journal (sortByTitle rest) := rfl

theorem insertByTitle_perm (journal : Journal) (journals : List Journal) :
    (insertByTitle journal journals).Perm (journal :: journals) := by
  induction journals with
  | nil => exact List.Perm.refl _
  | cons head rest ih =>
      unfold insertByTitle
      split
      · exact (ih.cons head).trans (List.Perm.swap journal head rest)
      · exact List.Perm.refl _

/-- Sorting neither loses nor adds a journal. -/
theorem sortByTitle_perm (journals : List Journal) : (sortByTitle journals).Perm journals := by
  induction journals with
  | nil => exact List.Perm.refl _
  | cons head rest ih => exact (insertByTitle_perm head _).trans (ih.cons head)

end Journal

end ThoughtJournal
