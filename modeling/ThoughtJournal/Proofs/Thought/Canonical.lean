import ThoughtJournal.Atomizer
import ThoughtJournal.Proofs.Text.AscendingSet
import ThoughtJournal.Proofs.Text.Lines

/-! # Canonical thoughts

What is composed from a list of tags depends on the set of the tags alone
(`Thought.compose_eq_of_canonicalTags`), and composing a thought again from its own parts gives the
same thought (`Thought.IsCanonical`). The reason is that the tags of a thought are the ascending
listing of a set that is not empty, and such a list is its own canonical form
(`Thought.canonicalTags_of_ascending`).

All thoughts of a journal are canonical, and their tags are those whose keywords occur in their
content, or the fallback tag alone (`Thought.canonical_thoughts`).
-/

namespace ThoughtJournal

namespace Thought

/-! ## Canonical tags -/

/-- The tags of a thought depend on the set of tags alone. -/
theorem canonicalTags_congr {left right : List Text} (same : ∀ tag, tag ∈ left ↔ tag ∈ right) :
    canonicalTags left = canonicalTags right := by
  unfold canonicalTags
  rw [Text.ascendingSet_congr same]

/-- Ascending tags are kept as they are, if there are any. -/
theorem canonicalTags_of_ascending {tags : List Text} (ascending : tags.Pairwise (· < ·))
    (filled : tags ≠ []) : canonicalTags tags = tags := by
  unfold canonicalTags
  rw [Text.ascendingSet_of_ascending ascending]
  cases tags with
  | nil => exact absurd rfl filled
  | cons first rest => rfl

/-- The canonical form of tags is canonical. -/
theorem canonicalTags_canonicalTags (tags : List Text) :
    canonicalTags (canonicalTags tags) = canonicalTags tags :=
  canonicalTags_of_ascending (canonicalTags_ascending tags) (canonicalTags_ne_nil tags)

/-! ## Canonical thoughts -/

/-- A thought that is composed of its own date, content, category and tags. -/
def IsCanonical (thought : Thought) : Prop :=
  compose thought.date thought.content thought.category thought.tags = thought

/-- A thought depends on its tags only through their canonical form. -/
theorem compose_eq_of_canonicalTags {left right : List Text}
    (same : canonicalTags left = canonicalTags right) (date content : Text) (category : Category) :
    compose date content category left = compose date content category right := by
  unfold compose
  rw [same]

/-- A composed thought is canonical. -/
theorem isCanonical_compose (date content : Text) (category : Category) (tags : List Text) :
    IsCanonical (compose date content category tags) :=
  compose_eq_of_canonicalTags (canonicalTags_canonicalTags tags) date content category

end Thought

namespace Taxonomy

/-- Whether a keyword that a taxonomy lists under a tag occurs in the lower-case form of a text. -/
def Finds (taxonomy : Taxonomy) (text tag : Text) : Prop :=
  ∃ keywords, taxonomy.entries.get? tag = some keywords ∧
    ∃ keyword ∈ keywords, keyword <:+: Text.lower text

/-- A text has the tags of which the taxonomy finds a keyword in it. -/
theorem mem_tagsOf_iff_finds (taxonomy : Taxonomy) (text tag : Text) :
    tag ∈ taxonomy.tagsOf text ↔ taxonomy.Finds text tag := by
  rw [mem_tagsOf]
  unfold Finds
  simp only [Dictionary.mem_entries_iff, Text.occursIn_iff]

/-- A thought has the tags of its content, or the fallback tag alone. -/
theorem tags_thoughtOf (taxonomy : Taxonomy) (date : Text) (piece : Scan.Piece) :
    (taxonomy.thoughtOf date piece).tags = if taxonomy.tagsOf piece.content = []
      then [Thought.fallbackTag] else taxonomy.tagsOf piece.content := by
  change Thought.canonicalTags (taxonomy.tagsOf piece.content) = _
  split
  · rename_i untagged
    rw [untagged, Thought.canonicalTags_nil]
  · rename_i tagged
    exact Thought.canonicalTags_of_ascending (tagsOf_ascending taxonomy piece.content) tagged

end Taxonomy

namespace Thought

/-- **Thoughts are canonical.** A thought depends on its tags through the set of them only, its tags
are ascending and not empty, and it is composed of its own parts. All thoughts of a journal are such
thoughts; their tags are those of which a keyword occurs in the lower-case form of the content, or
the fallback tag alone if there are none. -/
theorem canonical_thoughts :
    (∀ date content category left right, (∀ tag, tag ∈ left ↔ tag ∈ right) →
      compose date content category left = compose date content category right) ∧
    (∀ date content category tags,
      (compose date content category tags).tags.Pairwise (· < ·) ∧
        (compose date content category tags).tags ≠ [] ∧
        (compose date content category tags).IsCanonical) ∧
    ∀ (taxonomy : Taxonomy) (date body : Text), ∀ thought ∈ taxonomy.atomize date body,
      thought.IsCanonical ∧
      ((∃ tag, taxonomy.Finds thought.content tag) →
        ∀ tag, tag ∈ thought.tags ↔ taxonomy.Finds thought.content tag) ∧
      ((¬ ∃ tag, taxonomy.Finds thought.content tag) → thought.tags = [fallbackTag]) := by
  refine ⟨fun date content category left right same => ?_, fun date content category tags => ?_, ?_⟩
  · exact compose_eq_of_canonicalTags (canonicalTags_congr same) date content category
  · exact ⟨canonicalTags_ascending tags, canonicalTags_ne_nil tags,
      isCanonical_compose date content category tags⟩
  · intro taxonomy date body thought member
    obtain ⟨piece, _, rfl⟩ := List.mem_map.mp member
    refine ⟨isCanonical_compose _ _ _ _, ?_, ?_⟩
    · rintro ⟨found, finds⟩ tag
      have tagged : taxonomy.tagsOf piece.content ≠ [] :=
        List.ne_nil_of_mem ((taxonomy.mem_tagsOf_iff_finds _ found).mpr finds)
      rw [taxonomy.tags_thoughtOf, if_neg tagged]
      exact taxonomy.mem_tagsOf_iff_finds _ tag
    · intro notFound
      have untagged : taxonomy.tagsOf piece.content = [] :=
        List.eq_nil_iff_forall_not_mem.mpr fun tag tagged =>
          notFound ⟨tag, (taxonomy.mem_tagsOf_iff_finds _ tag).mp tagged⟩
      rw [taxonomy.tags_thoughtOf, if_pos untagged]

/-- Two thoughts of a journal, one with two tags, in whatever order and however often they are given,
and one without a tag. -/
theorem canonical_thoughts_of_area :
    let taxonomy : Taxonomy := ⟨Dictionary.ofList
      [("sre".toList, ["outage".toList]), ("ai".toList, ["rag".toList, "llm".toList])]⟩
    let date := "2026-02-16".toList
    let body := "## Area\n- An outage of the RAG\n- Slept".toList
    let tagged := taxonomy.thoughtOf date ⟨"An outage of the RAG".toList, .area⟩
    let untagged := taxonomy.thoughtOf date ⟨"Slept".toList, .area⟩
    let sre := "sre".toList
    let ai := "ai".toList
    compose date tagged.content .area [sre, ai, sre] = compose date tagged.content .area [ai, sre] ∧
      tagged ∈ taxonomy.atomize date body ∧ tagged.IsCanonical ∧
      (∀ tag, tag ∈ tagged.tags ↔ taxonomy.Finds tagged.content tag) ∧
      untagged ∈ taxonomy.atomize date body ∧ untagged.tags = [fallbackTag] := by
  intro taxonomy date body tagged untagged sre ai
  have pieces : Scan.pieces body = [⟨tagged.content, .area⟩, ⟨untagged.content, .area⟩] := by
    decide +kernel
  have taggedMember : tagged ∈ taxonomy.atomize date body :=
    List.mem_map.mpr ⟨_, pieces ▸ List.mem_cons_self, rfl⟩
  have untaggedMember : untagged ∈ taxonomy.atomize date body :=
    List.mem_map.mpr ⟨_, pieces ▸ List.mem_cons_of_mem _ List.mem_cons_self, rfl⟩
  have finds : taxonomy.Finds tagged.content sre :=
    (taxonomy.mem_tagsOf_iff_finds _ sre).mp (by decide +kernel)
  have findsNone : ¬ ∃ tag, taxonomy.Finds untagged.content tag := by
    rintro ⟨tag, found⟩
    have none : taxonomy.tagsOf untagged.content = [] := by decide +kernel
    exact absurd ((taxonomy.mem_tagsOf_iff_finds _ tag).mpr found) (none ▸ List.not_mem_nil)
  obtain ⟨sameTags, _, ofJournal⟩ := canonical_thoughts
  refine ⟨sameTags _ _ _ _ _ fun tag => ?_, taggedMember, ?_, ?_, untaggedMember, ?_⟩
  · simp only [List.mem_cons, List.not_mem_nil, or_false]
    exact or_iff_right_of_imp Or.inr
  · exact (ofJournal taxonomy date body tagged taggedMember).1
  · exact (ofJournal taxonomy date body tagged taggedMember).2.1 ⟨sre, finds⟩
  · exact (ofJournal taxonomy date body untagged untaggedMember).2.2 findsNone

end Thought

end ThoughtJournal
