import ThoughtJournal.Scan
import ThoughtJournal.Taxonomy
import ThoughtJournal.Thought

/-! # From journals to thoughts

Every captured piece of a journal becomes one thought: it is dated by the journal's title and tagged
by a taxonomy.
-/

namespace ThoughtJournal.Taxonomy

def thoughtOf (taxonomy : Taxonomy) (date : Text) (piece : Scan.Piece) : Thought :=
  Thought.compose date piece.content piece.category (taxonomy.tagsOf piece.content)

/-- The thoughts of a journal in order. -/
def atomize (taxonomy : Taxonomy) (date body : Text) : List Thought :=
  (Scan.pieces body).map (taxonomy.thoughtOf date)

/-- Every thought of a journal is dated by it. -/
theorem date_of_mem_atomize {taxonomy : Taxonomy} {date body : Text} {thought : Thought}
    (member : thought ∈ taxonomy.atomize date body) : thought.date = date := by
  obtain ⟨piece, _, rfl⟩ := List.mem_map.mp member
  rfl

end ThoughtJournal.Taxonomy
