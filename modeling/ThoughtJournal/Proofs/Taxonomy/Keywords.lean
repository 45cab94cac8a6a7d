import ThoughtJournal.Proofs.Text.Sigma
import ThoughtJournal.Taxonomy

/-! # Keywords and the tags they give

The taxonomy of an accepted table has the keywords of the table in lower case under the trimmed tags
(`Taxonomy.get?_ofTable`). So a text has a tag of the table if and only if the lower-case form of one
of its keywords occurs in that of the text (`Taxonomy.mem_tagsOf_ofTable`).

A keyword that stands in a text as it is written in the table is found unless a capital sigma has
another form there than in the keyword alone. A keyword that settles the forms of its sigmas, as every
keyword without a capital sigma does, gives its tag to every text in which it stands, and no other one
does (`Taxonomy.gives_tag_of_settled`).
-/

namespace ThoughtJournal.Taxonomy

variable {table : Dictionary (List Text)} {taxonomy : Taxonomy}

/-! ## Accepted tables -/

/-- An accepted entry is kept with its trimmed tag and its keywords in lower case. -/
theorem readEntry_eq_ok {tag : Text} {keywords : List Text} {entry : Text × List Text}
    (accepted : readEntry tag keywords = .ok entry) :
    entry = (Text.trim tag, keywords.map Text.lower) := by
  unfold readEntry at accepted
  dsimp only at accepted
  split at accepted
  · cases accepted
  split at accepted
  · cases accepted
  split at accepted
  · cases accepted
  · exact (Except.ok.inj accepted).symm

/-- Accepted entries are kept each with its trimmed tag and its keywords in lower case. -/
theorem readEntries_eq_ok {table entries : List (Text × List Text)}
    (accepted : readEntries table = .ok entries) :
    entries = table.map fun entry => (Text.trim entry.1, entry.2.map Text.lower) := by
  induction table generalizing entries with
  | nil => exact (Except.ok.inj accepted).symm
  | cons entry rest ih =>
      rw [readEntries] at accepted
      split at accepted
      · cases accepted
      · rename_i first read
        split at accepted
        · cases accepted
        · rename_i others readRest
          rw [← Except.ok.inj accepted, List.map_cons, ← readEntry_eq_ok read, ← ih readRest]

/-- The taxonomy of an accepted table is the dictionary of its entries, each with its tag trimmed and
its keywords in lower case. -/
theorem entries_ofTable (accepted : ofTable table = .ok taxonomy) :
    taxonomy.entries = Dictionary.ofList
      (table.entries.map fun entry => (Text.trim entry.1, entry.2.map Text.lower)) := by
  unfold ofTable at accepted
  split at accepted
  · cases accepted
  · rename_i entries read
    rw [← Except.ok.inj accepted, readEntries_eq_ok read]

/-- If no two tags become equal by trimming, every tag has its keywords. -/
theorem get?_ofTable (accepted : ofTable table = .ok taxonomy)
    (distinct : (table.keys.map Text.trim).Nodup) {tag : Text} {keywords : List Text}
    (listed : (tag, keywords) ∈ table.entries) :
    taxonomy.entries.get? (Text.trim tag) = some (keywords.map Text.lower) := by
  rw [entries_ofTable accepted]
  apply Dictionary.get?_ofList_of_mem
  · rw [List.map_map]
    rw [Dictionary.keys, List.map_map] at distinct
    exact distinct
  · exact List.mem_map.mpr ⟨(tag, keywords), listed, rfl⟩

/-- A text has a tag of a table if one of its keywords occurs, both in lower case. -/
theorem mem_tagsOf_ofTable (accepted : ofTable table = .ok taxonomy)
    (distinct : (table.keys.map Text.trim).Nodup) {tag : Text} {keywords : List Text}
    (listed : (tag, keywords) ∈ table.entries) (text : Text) :
    Text.trim tag ∈ taxonomy.tagsOf text ↔
      ∃ keyword ∈ keywords, Text.occursIn (Text.lower keyword) (Text.lower text) = true := by
  have found := get?_ofTable accepted distinct listed
  rw [mem_tagsOf]
  constructor
  · rintro ⟨lowered, entry, keyword, member, occurs⟩
    rw [Dictionary.mem_entries_iff, found] at entry
    rw [← Option.some.inj entry] at member
    obtain ⟨written, origin, rfl⟩ := List.mem_map.mp member
    exact ⟨written, origin, occurs⟩
  · rintro ⟨written, origin, occurs⟩
    exact ⟨keywords.map Text.lower, Dictionary.mem_entries_iff.mpr found, Text.lower written,
      List.mem_map_of_mem origin, occurs⟩

/-! ## Effective keywords -/

/-- **Which keywords are effective.** Let a keyword be listed under a tag of an accepted table in which
no two tags become equal by trimming. If it settles the forms of its sigmas, every text in which it
stands as it is written has the trimmed tag; otherwise it stands in a text that has the tag only if
another keyword of the tag is found. In either case a text has the tag if the keyword stands in it at a
place where its sigmas keep their forms. -/
theorem gives_tag_of_settled (accepted : ofTable table = .ok taxonomy)
    (distinct : (table.keys.map Text.trim).Nodup) {tag : Text} {keywords : List Text}
    (listed : (tag, keywords) ∈ table.entries) {keyword : Text} (member : keyword ∈ keywords) :
    (Text.SettlesSigmas keyword → ∀ text, Text.occursIn keyword text = true →
      Text.trim tag ∈ taxonomy.tagsOf text) ∧
    (¬ Text.SettlesSigmas keyword → ∃ text, Text.occursIn keyword text = true ∧
      (Text.trim tag ∈ taxonomy.tagsOf text ↔ ∃ other ∈ keywords, other ≠ keyword ∧
        Text.occursIn (Text.lower other) (Text.lower text) = true)) ∧
    ∀ before after, Text.KeepsSigmas before keyword after →
      Text.trim tag ∈ taxonomy.tagsOf (before ++ (keyword ++ after)) := by
  have tagged := mem_tagsOf_ofTable accepted distinct listed
  refine ⟨fun settles text occurs => ?_, fun unsettled => ?_, fun before after kept => ?_⟩
  · have found := Text.forall_occursIn_lower_iff.mpr settles text occurs
    exact (tagged text).mpr ⟨keyword, member, found⟩
  · obtain ⟨text, occurs, absent⟩ := Text.exists_text_of_not_settles unsettled
    refine ⟨text, Text.occursIn_iff.mpr occurs, (tagged text).trans ⟨?_, ?_⟩⟩
    · rintro ⟨other, origin, found⟩
      refine ⟨other, origin, fun same => ?_, found⟩
      rw [same] at found
      exact absent (Text.occursIn_iff.mp found)
    · rintro ⟨other, origin, _, found⟩
      exact ⟨other, origin, found⟩
  · exact (tagged _).mpr ⟨keyword, member, kept.occursIn_lower⟩

/-- A tag with blank characters around it, and two keywords: one begins with a sigma before other
letters, the other one ends with a sigma, which is settled only by what comes after it. -/
theorem gives_tag_of_settled_greek :
    let first := "ΣΟΦΙΑ".toList
    let second := "ΟΔΟΣ".toList
    let table : Dictionary (List Text) := Dictionary.empty.insert " greek ".toList [first, second]
    let taxonomy : Taxonomy := ⟨Dictionary.empty.insert "greek".toList
      [Text.lower first, Text.lower second]⟩
    ofTable table = .ok taxonomy ∧ (table.keys.map Text.trim).Nodup ∧
      Text.SettlesSigmas first ∧ Text.occursIn first "ΦΙΛΟΣΟΦΙΑΣ".toList = true ∧
      "greek".toList ∈ taxonomy.tagsOf "ΦΙΛΟΣΟΦΙΑΣ".toList ∧
      ¬ Text.SettlesSigmas second ∧ Text.KeepsSigmas "Η ".toList second ".".toList ∧
      "greek".toList ∈ taxonomy.tagsOf "Η ΟΔΟΣ.".toList := by
  intro first second table taxonomy
  have accepted : ofTable table = .ok taxonomy := by decide +kernel
  have distinct : (table.keys.map Text.trim).Nodup := by decide +kernel
  have listed : (" greek ".toList, [first, second]) ∈ table.entries := List.mem_cons_self
  have settles : Text.SettlesSigmas first := by decide +kernel
  have occurs : Text.occursIn first "ΦΙΛΟΣΟΦΙΑΣ".toList = true := by decide +kernel
  have keeps : Text.KeepsSigmas "Η ".toList second ".".toList := by decide +kernel
  have ofFirst := gives_tag_of_settled accepted distinct listed List.mem_cons_self
  have ofSecond := gives_tag_of_settled accepted distinct listed
    (List.mem_cons_of_mem first List.mem_cons_self)
  have trimmed : Text.trim " greek ".toList = "greek".toList := by decide +kernel
  have parts : "Η ".toList ++ (second ++ ".".toList) = "Η ΟΔΟΣ.".toList := by decide +kernel
  have last := ofSecond.2.2 _ _ keeps
  rw [trimmed, parts] at last
  rw [trimmed] at ofFirst
  exact ⟨accepted, distinct, settles, occurs, ofFirst.1 settles _ occurs, by decide +kernel, keeps,
    last⟩

/-- A keyword at the beginning of a longer word is not found there: its last sigma, which ends a word
in the keyword, ends none in the text. -/
theorem keyword_within_word_not_found :
    let keyword := "ΟΔΟΣ".toList
    let text := "ΟΔΟΣΤΡΩΜΑ".toList
    let table : Dictionary (List Text) := Dictionary.empty.insert "road".toList [keyword]
    ∃ taxonomy, ofTable table = .ok taxonomy ∧ (table.keys.map Text.trim).Nodup ∧
      ("road".toList, [keyword]) ∈ table.entries ∧ Text.occursIn keyword text = true ∧
      Text.trim "road".toList ∉ taxonomy.tagsOf text := by
  intro keyword text table
  refine ⟨⟨Dictionary.empty.insert "road".toList [Text.lower keyword]⟩, ?_⟩
  decide +kernel

end ThoughtJournal.Taxonomy
