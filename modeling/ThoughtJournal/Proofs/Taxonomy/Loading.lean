import Mathlib.Data.List.Nodup
import ThoughtJournal.Proofs.Config.Validation
import ThoughtJournal.Proofs.Taxonomy.Keywords

/-! # What is loaded of a table

Tags are trimmed on their way into a taxonomy, and of several tags that become equal the last one of
the table holds. So what stands under a tag are the keywords of the last entry with this tag
(`Taxonomy.get?_eq_some_iff`), and a table is loaded without loss if and only if every entry that is
replaced repeats keywords of the entry that replaces it (`Taxonomy.loadedWithoutLoss_iff`).
-/

namespace ThoughtJournal.Taxonomy

variable {table : Dictionary (List Text)} {taxonomy : Taxonomy}

/-- The last entry of a table whose tag becomes a given one by trimming. -/
def IsLastUnder (table : Dictionary (List Text)) (tag : Text) (entry : Text × List Text) : Prop :=
  ∃ before after, table.entries = before ++ entry :: after ∧ Text.trim entry.1 = tag ∧
    ∀ later ∈ after, Text.trim later.1 ≠ tag

/-- The tags of the taxonomy are the trimmed tags of the table, and under each of them stand all
keywords that the table lists for it, in lower case, and no others. -/
def LoadedWithoutLoss (table : Dictionary (List Text)) (taxonomy : Taxonomy) : Prop :=
  ∀ tag, (tag ∈ taxonomy.tags ↔ ∃ entry ∈ table.entries, Text.trim entry.1 = tag) ∧
    ∀ keyword, (∃ loaded, taxonomy.entries.get? tag = some loaded ∧ keyword ∈ loaded) ↔
      ∃ entry ∈ table.entries, Text.trim entry.1 = tag ∧ keyword ∈ entry.2.map Text.lower

theorem IsLastUnder.mem {tag : Text} {entry : Text × List Text}
    (last : IsLastUnder table tag entry) : entry ∈ table.entries := by
  obtain ⟨before, after, split, _⟩ := last
  rw [split]
  exact List.mem_append_right before List.mem_cons_self

theorem IsLastUnder.trim_eq {tag : Text} {entry : Text × List Text}
    (last : IsLastUnder table tag entry) : Text.trim entry.1 = tag := by
  obtain ⟨_, _, _, named, _⟩ := last
  exact named

/-- There is a last entry under the trimmed tag of every entry. -/
theorem exists_isLastUnder {entry : Text × List Text} (listed : entry ∈ table.entries) :
    ∃ last, IsLastUnder table (Text.trim entry.1) last := by
  have present : (table.entries.reverse.find? fun other =>
      decide (Text.trim other.1 = Text.trim entry.1)).isSome = true :=
    List.find?_isSome.mpr ⟨entry, List.mem_reverse.mpr listed, decide_eq_true rfl⟩
  obtain ⟨last, found⟩ := Option.isSome_iff_exists.mp present
  obtain ⟨named, after, before, split, others⟩ := List.find?_eq_some_iff_append.mp found
  refine ⟨last, before.reverse, after.reverse, ?_, of_decide_eq_true named, ?_⟩
  · rw [← List.reverse_reverse table.entries, split, List.reverse_append, List.reverse_cons,
      List.append_assoc, List.singleton_append]
  · intro later member same
    have different := others later (List.mem_reverse.mp member)
    rw [decide_eq_true same] at different
    cases different

/-- Under a tag of the taxonomy stand the keywords of the last entry with this tag. -/
theorem get?_of_isLastUnder (accepted : ofTable table = .ok taxonomy) {tag : Text}
    {entry : Text × List Text} (last : IsLastUnder table tag entry) :
    taxonomy.entries.get? tag = some (entry.2.map Text.lower) := by
  obtain ⟨before, after, split, named, others⟩ := last
  rw [entries_ofTable accepted, Dictionary.get?_ofList, List.lookup_eq_some_iff, split]
  refine ⟨(after.map fun other => (Text.trim other.1, other.2.map Text.lower)).reverse,
    (before.map fun other => (Text.trim other.1, other.2.map Text.lower)).reverse, ?_, ?_⟩
  · rw [List.map_append, List.map_cons, List.reverse_append, List.reverse_cons, List.append_assoc,
      List.singleton_append, named]
  · intro other member
    obtain ⟨later, origin, rfl⟩ := List.mem_map.mp (List.mem_reverse.mp member)
    exact bne_iff_ne.mpr (others later origin).symm

/-- The tags of the taxonomy are the trimmed tags of the table. -/
theorem exists_get?_iff (accepted : ofTable table = .ok taxonomy) {tag : Text} :
    (∃ keywords, taxonomy.entries.get? tag = some keywords) ↔
      ∃ entry ∈ table.entries, Text.trim entry.1 = tag := by
  constructor
  · rintro ⟨keywords, found⟩
    rw [entries_ofTable accepted, Dictionary.get?_ofList] at found
    obtain ⟨before, after, split, _⟩ := List.lookup_eq_some_iff.mp found
    have listed : (tag, keywords) ∈ before ++ (tag, keywords) :: after :=
      List.mem_append_right before List.mem_cons_self
    rw [← split, List.mem_reverse] at listed
    obtain ⟨entry, origin, same⟩ := List.mem_map.mp listed
    exact ⟨entry, origin, congrArg Prod.fst same⟩
  · rintro ⟨entry, listed, rfl⟩
    obtain ⟨last, isLast⟩ := exists_isLastUnder listed
    exact ⟨_, get?_of_isLastUnder accepted isLast⟩

/-- Under every tag of the taxonomy stand the keywords of the last entry with this tag. -/
theorem get?_eq_some_iff (accepted : ofTable table = .ok taxonomy) {tag : Text}
    {keywords : List Text} :
    taxonomy.entries.get? tag = some keywords ↔
      ∃ entry, IsLastUnder table tag entry ∧ entry.2.map Text.lower = keywords := by
  constructor
  · intro found
    obtain ⟨entry, listed, rfl⟩ := (exists_get?_iff accepted).mp ⟨keywords, found⟩
    obtain ⟨last, isLast⟩ := exists_isLastUnder listed
    rw [get?_of_isLastUnder accepted isLast] at found
    exact ⟨last, isLast, Option.some.inj found⟩
  · rintro ⟨entry, isLast, rfl⟩
    exact get?_of_isLastUnder accepted isLast

/-- The tags of a taxonomy are those with keywords under them. -/
theorem mem_tags_iff {tag : Text} :
    tag ∈ taxonomy.tags ↔ ∃ keywords, taxonomy.entries.get? tag = some keywords := by
  unfold tags Dictionary.keys
  simp only [List.mem_map, Prod.exists, exists_and_right, exists_eq_right,
    Dictionary.mem_entries_iff]

/-- Nothing is lost if and only if every entry that is replaced repeats keywords of the entry that
replaces it. -/
theorem loadedWithoutLoss_iff (accepted : ofTable table = .ok taxonomy) :
    LoadedWithoutLoss table taxonomy ↔ ∀ entry ∈ table.entries, ∀ last,
      IsLastUnder table (Text.trim entry.1) last →
        entry.2.map Text.lower ⊆ last.2.map Text.lower := by
  constructor
  · intro loaded entry listed last isLast keyword member
    obtain ⟨found, stored, within⟩ :=
      ((loaded (Text.trim entry.1)).2 keyword).mpr ⟨entry, listed, rfl, member⟩
    rw [get?_of_isLastUnder accepted isLast] at stored
    exact Option.some.inj stored ▸ within
  · intro repeated tag
    refine ⟨mem_tags_iff.trans (exists_get?_iff accepted), fun keyword => ⟨?_, ?_⟩⟩
    · rintro ⟨found, stored, within⟩
      obtain ⟨last, isLast, rfl⟩ := (get?_eq_some_iff accepted).mp stored
      exact ⟨last, isLast.mem, isLast.trim_eq, within⟩
    · rintro ⟨entry, listed, rfl, member⟩
      obtain ⟨last, isLast⟩ := exists_isLastUnder listed
      exact ⟨_, get?_of_isLastUnder accepted isLast, repeated entry listed last isLast member⟩

/-- If no two tags become equal by trimming, nothing is lost. -/
theorem loadedWithoutLoss_of_distinct (accepted : ofTable table = .ok taxonomy)
    (distinct : (table.keys.map Text.trim).Nodup) : LoadedWithoutLoss table taxonomy := by
  apply (loadedWithoutLoss_iff accepted).mpr
  intro entry listed last isLast
  rw [Dictionary.keys, List.map_map] at distinct
  have same : last = entry := List.inj_on_of_nodup_map distinct isLast.mem listed isLast.trim_eq
  rw [same]
  exact List.Subset.refl _

/-- **What an accepted table becomes.** The table of an accepted configuration is the table of a
taxonomy. Under every trimmed tag of an accepted table its taxonomy has the keywords of the last
entry with this tag, in lower case, and nothing else. So the table is loaded without loss if and
only if every entry repeats keywords of the last entry with its tag, in particular if no two tags
become equal by trimming. -/
theorem loaded_last_entries (table : Dictionary (List Text)) :
    (∀ text config, Config.parse text = .ok config → config.keywords = some table →
      ∃ taxonomy, config.taxonomy = .ok taxonomy ∧ ofTable table = .ok taxonomy) ∧
    ∀ taxonomy, ofTable table = .ok taxonomy →
      (∀ tag keywords, taxonomy.entries.get? tag = some keywords ↔
        ∃ entry, IsLastUnder table tag entry ∧ entry.2.map Text.lower = keywords) ∧
      (LoadedWithoutLoss table taxonomy ↔ ∀ entry ∈ table.entries, ∀ last,
        IsLastUnder table (Text.trim entry.1) last →
          entry.2.map Text.lower ⊆ last.2.map Text.lower) ∧
      ((table.keys.map Text.trim).Nodup → LoadedWithoutLoss table taxonomy) := by
  constructor
  · intro text config parsed given
    obtain ⟨taxonomy, loaded⟩ := Config.exists_taxonomy_of_parse parsed
    refine ⟨taxonomy, loaded, ?_⟩
    rwa [Config.taxonomy, given] at loaded
  · intro taxonomy accepted
    exact ⟨fun tag keywords => get?_eq_some_iff accepted, loadedWithoutLoss_iff accepted,
      loadedWithoutLoss_of_distinct accepted⟩

/-- Of three tags that become equal the last one repeats the keyword of the first one in another
case, but not that of the second one. -/
theorem loaded_last_entries_of_cloud :
    let entries := [(" cloud".toList, ["AWS".toList]), ("cloud".toList, ["Azure".toList]),
      ("cloud ".toList, ["aws".toList, "gcp".toList])]
    let table : Dictionary (List Text) := Dictionary.ofList entries
    let config := { Config.minimal with database.path := "d".toList, keywords := some table }
    let text := ("db.path='d'\ntagger.keywords=\x7b' cloud'=['AWS'],cloud=['Azure'],".toList ++
      "'cloud '=['aws','gcp']\x7d".toList)
    table.entries = entries ∧ Config.parse text = .ok config ∧
      ∃ taxonomy, config.taxonomy = .ok taxonomy ∧ ofTable table = .ok taxonomy ∧
        taxonomy.entries.get? "cloud".toList = some ["aws".toList, "gcp".toList] ∧
        ¬ LoadedWithoutLoss table taxonomy := by
  intro entries table config text
  have listing : table.entries = entries := by decide +kernel
  have parsed : Config.parse text = .ok config := by decide +kernel
  obtain ⟨taxonomy, loaded, accepted⟩ := (loaded_last_entries table).1 text config parsed rfl
  obtain ⟨stored, lossless, _⟩ := (loaded_last_entries table).2 taxonomy accepted
  have last : IsLastUnder table "cloud".toList ("cloud ".toList, ["aws".toList, "gcp".toList]) :=
    ⟨entries.take 2, [], by rw [listing]; rfl, by decide +kernel, by simp⟩
  refine ⟨listing, parsed, taxonomy, loaded, accepted, ?_, ?_⟩
  · exact (stored _ _).mpr ⟨_, last, by decide +kernel⟩
  · intro complete
    have within := lossless.mp complete ("cloud".toList, ["Azure".toList]) (by rw [listing]; decide)
      _ last
    exact absurd within (by decide +kernel)

/-- Of two tags that become equal by trimming only the later one is loaded, and the keyword of the
other one is lost. -/
theorem replaced_entry_is_lost :
    let table : Dictionary (List Text) :=
      Dictionary.ofList [("a".toList, ["x".toList]), ("a ".toList, ["y".toList])]
    ∃ taxonomy, ofTable table = .ok taxonomy ∧ ¬ LoadedWithoutLoss table taxonomy ∧
      taxonomy.tagsOf "x".toList = [] := by
  intro table
  let taxonomy : Taxonomy := ⟨Dictionary.ofList [("a".toList, ["y".toList])]⟩
  have accepted : ofTable table = .ok taxonomy := by decide +kernel
  refine ⟨taxonomy, accepted, fun complete => ?_, by decide +kernel⟩
  have kept := ((complete "a".toList).2 "x".toList).mpr
    ⟨("a".toList, ["x".toList]), by decide +kernel, by decide +kernel, by decide +kernel⟩
  obtain ⟨loaded, stored, within⟩ := kept
  have found : taxonomy.entries.get? "a".toList = some ["y".toList] := by decide +kernel
  rw [found] at stored
  exact absurd (Option.some.inj stored ▸ within) (by decide)

end ThoughtJournal.Taxonomy
