import ThoughtJournal.Category
import ThoughtJournal.Digest
import ThoughtJournal.Text.Order

/-! # Thoughts

A thought is a short note with the date of its journal, a category and tags. Everything else about
it is computed from these: the line of context that a language model is given, an estimate of the
tokens of that line, and the checksum of the content, by which stores tell thoughts apart.
-/

namespace ThoughtJournal

/-- A thought with everything that is computed from it. -/
structure Thought where
  date : Text
  content : Text
  category : Category
  tags : List Text
  contextLine : Text
  checksum : Text
  tokenCount : Nat
deriving DecidableEq, Repr

namespace Thought

/-- The tag of a thought without tags. -/
def fallbackTag : Text := ['r', 'a', 'n', 'd', 'o', 'm']

/-- Distinct tags in ascending order; the fallback tag stands in for an empty list. -/
def canonicalTags (tags : List Text) : List Text :=
  match Text.ascendingSet tags with
  | [] => [fallbackTag]
  | first :: rest => first :: rest

/-- The line that tells a language model about a thought. -/
def context (date : Text) (category : Category) (tags : List Text) (content : Text) : Text :=
  "Date: ".toList ++ date ++ " | Category: ".toList ++ category.name ++ " | Tags: ".toList ++
    Text.join [',', ' '] tags ++ " | Content: ".toList ++ content

/-- The thought with a date, a content, a category and tags. -/
def compose (date content : Text) (category : Category) (tags : List Text) : Thought :=
  let tags := canonicalTags tags
  let contextLine := context date category tags content
  { date, content, category, tags, contextLine
    checksum := Digest.checksum content
    tokenCount := Text.estimateTokens contextLine }

@[simp] theorem canonicalTags_nil : canonicalTags [] = [fallbackTag] := rfl

/-- A thought always has a tag. -/
theorem canonicalTags_ne_nil (tags : List Text) : canonicalTags tags ≠ [] := by
  unfold canonicalTags
  split <;> simp

/-- The tags of a thought are ascending, so none occurs twice. -/
theorem canonicalTags_ascending (tags : List Text) : (canonicalTags tags).Pairwise (· < ·) := by
  unfold canonicalTags
  split
  · simp
  · rename_i listing
    exact listing ▸ Text.ascendingSet_ascending tags

end Thought

end ThoughtJournal
