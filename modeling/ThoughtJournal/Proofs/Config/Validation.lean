import ThoughtJournal.Command.Run
import ThoughtJournal.Config.Decode
import ThoughtJournal.Proofs.Config.Repository

/-! # Which configurations are accepted

The values of a configuration have to meet conditions, which are listed in the order in which they are
looked at (`Config.conditions`). Every check reports the first condition that does not hold, if there
is one (`Condition.Reports`): the check of an entry in a table of keywords, that of the table, which
goes through the entries in the order of their tags, and that of the whole configuration
(`Config.reports_fault?`).

So a configuration that a text denotes is accepted if and only if all conditions hold, and otherwise
the first one that is violated is reported. What was accepted is not refused later: the keywords are
those of a taxonomy, and a repository is missing only if none is configured
(`Config.parse_of_decoded`).
-/

namespace ThoughtJournal

/-- A condition, and the fault that is reported if it does not hold. -/
structure Condition (Fault : Type) where
  holds : Prop
  fault : Fault

namespace Condition

variable {Fault Wider : Type}

/-- A condition whose fault is part of a wider one. -/
def within (wider : Fault → Wider) (condition : Condition Fault) : Condition Wider :=
  ⟨condition.holds, wider condition.fault⟩

/-- A fault that belongs to the first condition of a list which does not hold. -/
def FirstViolated (conditions : List (Condition Fault)) (fault : Fault) : Prop :=
  ∃ before condition after, conditions = before ++ condition :: after ∧
    (∀ earlier ∈ before, earlier.holds) ∧ ¬ condition.holds ∧ condition.fault = fault

/-- What is reported when the conditions of a list are looked at in order, up to the first one that
does not hold. -/
inductive Reports : List (Condition Fault) → Option Fault → Prop
  | nil : Reports [] none
  | violated {condition : Condition Fault} {rest : List (Condition Fault)}
      (fails : ¬ condition.holds) : Reports (condition :: rest) (some condition.fault)
  | held {condition : Condition Fault} {rest : List (Condition Fault)} {result : Option Fault}
      (holds : condition.holds) (others : Reports rest result) : Reports (condition :: rest) result

variable {conditions first second : List (Condition Fault)} {result : Option Fault} {fault : Fault}

/-- Nothing is reported if and only if every condition holds. -/
theorem reports_none_iff : Reports conditions none ↔ ∀ condition ∈ conditions, condition.holds := by
  induction conditions with
  | nil => simp [Reports.nil]
  | cons condition rest ih =>
      rw [List.forall_mem_cons, ← ih]
      constructor
      · intro reported
        cases reported with
        | held holds others => exact ⟨holds, others⟩
      · rintro ⟨holds, others⟩
        exact .held holds others

/-- What is reported is the fault of the first condition that fails. -/
theorem reports_some_iff : Reports conditions (some fault) ↔ FirstViolated conditions fault := by
  constructor
  · intro reported
    -- By induction on the report, which is kept as a variable beside the fault it tells.
    generalize reports : some fault = result at reported
    induction reported with
    | nil => cases reports
    | @violated condition rest fails =>
        exact ⟨[], condition, rest, rfl, by simp, fails, (Option.some.inj reports).symm⟩
    | @held earliest rest result holds _ ih =>
        obtain ⟨before, condition, after, rfl, earlier, fails, same⟩ := ih reports
        exact ⟨earliest :: before, condition, after, rfl, List.forall_mem_cons.mpr ⟨holds, earlier⟩,
          fails, same⟩
  · rintro ⟨before, condition, after, rfl, earlier, fails, rfl⟩
    induction before with
    | nil => exact .violated fails
    | cons next before ih =>
        obtain ⟨holds, others⟩ := List.forall_mem_cons.mp earlier
        exact .held holds (ih others)

/-- Only one report is made. -/
theorem Reports.unique {other : Option Fault} (reported : Reports conditions result)
    (again : Reports conditions other) : result = other := by
  induction reported with
  | nil =>
      cases again
      rfl
  | violated fails =>
      cases again with
      | violated => rfl
      | held holds _ => exact absurd holds fails
  | held holds _ ih =>
      cases again with
      | violated fails => exact absurd holds fails
      | held _ others => exact ih others

/-- A list of further conditions is looked at if nothing has been reported. -/
theorem Reports.append {other : Option Fault} (reported : Reports first result)
    (further : Reports second other) : Reports (first ++ second) (result.or other) := by
  induction reported with
  | nil => exact further
  | violated fails => exact .violated fails
  | held holds _ ih => exact .held holds ih

/-- A report in a wider vocabulary of faults, for conditions with these faults. -/
theorem Reports.within (wider : Fault → Wider) (reported : Reports conditions result) :
    Reports (conditions.map (Condition.within wider)) (result.map wider) := by
  induction reported with
  | nil => exact .nil
  | @violated condition rest fails =>
      have failsWithin : ¬ (condition.within wider).holds := fails
      exact .violated failsWithin
  | held holds _ ih => exact .held holds ih

/-- A test that fails where a condition does not hold, in front of further checks. -/
theorem Reports.guard {condition : Condition Fault} {test : Prop} [Decidable test]
    (decides : test ↔ ¬ condition.holds) (others : Reports conditions result) :
    Reports (condition :: conditions) (if test then some condition.fault else result) := by
  split
  · rename_i stopped
    exact .violated (decides.mp stopped)
  · rename_i passed
    exact .held (not_not.mp (decides.not.mp passed)) others

/-- The fault with which a check ends, if it ends with one. -/
def faultOf? {α : Type} : Except Fault α → Option Fault
  | .ok _ => none
  | .error fault => some fault

/-- A test in front of a check that can fail puts its condition in front of the others. -/
theorem Reports.guard_error {α : Type} {condition : Condition Fault} {test : Prop} [Decidable test]
    {checked : Except Fault α} (decides : test ↔ ¬ condition.holds)
    (others : Reports conditions (faultOf? checked)) :
    Reports (condition :: conditions)
      (faultOf? (if test then .error condition.fault else checked)) := by
  rw [apply_ite faultOf?]
  exact others.guard decides

end Condition

open Condition (Reports faultOf?)

/-! ## Tables of keywords -/

namespace Taxonomy

/-- What is asked of an entry of a table: a tag that is not blank, at least one keyword, and no blank
keyword. -/
def entryConditions (entry : Text × List Text) : List (Condition Fault) := [
  ⟨entry.1.IsVisible, .emptyTag⟩,
  ⟨entry.2 ≠ [], .noKeywords (Text.trim entry.1)⟩,
  ⟨∀ keyword ∈ entry.2, keyword.IsVisible, .emptyKeyword (Text.trim entry.1)⟩]

/-- What is asked of a table, entry by entry in ascending order of the tags. -/
def conditions (table : Dictionary (List Text)) : List (Condition Fault) :=
  table.entries.flatMap entryConditions

/-- Reading an entry reports the first of its conditions that fails. -/
theorem reports_readEntry (entry : Text × List Text) :
    Reports (entryConditions entry) (faultOf? (readEntry entry.1 entry.2)) := by
  have visibleTag : (Text.trim entry.1).isEmpty = true ↔ ¬ entry.1.IsVisible := by
    rw [List.isEmpty_iff, Text.trim_eq_nil_iff, Text.isAllBlank_iff]
  have listed : entry.2.isEmpty = true ↔ ¬ entry.2 ≠ [] := by
    rw [List.isEmpty_iff, not_not]
  have visibleKeywords : entry.2.any Text.isAllBlank = true ↔
      ¬ ∀ keyword ∈ entry.2, keyword.IsVisible := by
    simp only [List.any_eq_true, Text.isAllBlank_iff, not_forall, exists_prop]
  exact .guard_error visibleTag (.guard_error listed (.guard_error visibleKeywords .nil))

theorem faultOf?_readEntries_cons (entry : Text × List Text) (rest : List (Text × List Text)) :
    faultOf? (readEntries (entry :: rest)) =
      (faultOf? (readEntry entry.1 entry.2)).or (faultOf? (readEntries rest)) := by
  rw [readEntries]
  cases readEntry entry.1 entry.2 with
  | error fault => rfl
  | ok read =>
      cases readEntries rest with
      | error fault => rfl
      | ok others => rfl

/-- Reading entries reports the first condition that fails, entry by entry. -/
theorem reports_readEntries (entries : List (Text × List Text)) :
    Reports (entries.flatMap entryConditions) (faultOf? (readEntries entries)) := by
  induction entries with
  | nil => exact .nil
  | cons entry rest ih =>
      rw [List.flatMap_cons, faultOf?_readEntries_cons]
      exact (reports_readEntry entry).append ih

/-- A table has the fault of its entries in order. -/
theorem faultOf?_ofTable (table : Dictionary (List Text)) :
    faultOf? (ofTable table) = faultOf? (readEntries table.entries) := by
  unfold ofTable
  cases readEntries table.entries with
  | error fault => rfl
  | ok entries => rfl

/-- Reading a table reports the first of its conditions that fails. -/
theorem reports_ofTable (table : Dictionary (List Text)) :
    Reports (conditions table) (faultOf? (ofTable table)) := by
  rw [faultOf?_ofTable]
  exact reports_readEntries table.entries

end Taxonomy

/-! ## Configurations -/

namespace Config

/-- What is asked of a repository, if one is configured. -/
def repositoryConditions (repository : Option Text) : List (Condition Fault) :=
  repository.toList.map fun text => ⟨IsOwnerAndName text, .repository text⟩

/-- What is asked of a table of keywords, if one is given. -/
def keywordConditions (keywords : Option (Dictionary (List Text))) : List (Condition Fault) :=
  keywords.toList.flatMap fun table => (Taxonomy.conditions table).map (Condition.within .keywords)

/-- What is asked of a configuration: a limit from 1 to 100, a label that is not blank, time-outs that
are not zero, a repository of the proper form if there is one, and a proper table of keywords if there
is one. -/
def conditions (config : Config) : List (Condition Fault) :=
  ⟨1 ≤ config.journal.limit ∧ config.journal.limit ≤ 100, .limit⟩ ::
  ⟨config.journal.label.IsVisible, .label⟩ ::
  ⟨0 < config.journal.timeout, .timeout⟩ ::
  ⟨0 < config.database.acquireTimeout, .acquireTimeout⟩ ::
  (repositoryConditions config.journal.repository ++ keywordConditions config.keywords)

theorem taxonomyFault?_eq (config : Config) :
    config.taxonomyFault? = (faultOf? config.taxonomy).map .keywords := by
  unfold taxonomyFault?
  cases config.taxonomy with
  | error fault => rfl
  | ok taxonomy => rfl

/-- Checking the keywords reports the first of their conditions that fails. -/
theorem reports_taxonomyFault? (config : Config) :
    Reports (keywordConditions config.keywords) config.taxonomyFault? := by
  rw [taxonomyFault?_eq]
  unfold keywordConditions taxonomy
  cases config.keywords with
  | none => exact .nil
  | some table =>
      rw [Option.toList_some, List.flatMap_singleton]
      exact (Taxonomy.reports_ofTable table).within Fault.keywords

/-- The check of a configuration goes through the conditions in order. -/
theorem reports_fault? (config : Config) : Reports config.conditions config.fault? := by
  have limit : (decide (config.journal.limit < 1) || decide (100 < config.journal.limit)) = true ↔
      ¬ (1 ≤ config.journal.limit ∧ config.journal.limit ≤ 100) := by
    rw [Bool.or_eq_true, decide_eq_true_eq, decide_eq_true_eq]
    omega
  have positive (seconds : Nat) : (seconds == 0) = true ↔ ¬ 0 < seconds := by
    rw [beq_iff_eq, Nat.pos_iff_ne_zero, not_not]
  have keywords := config.reports_taxonomyFault?
  -- The last guard is there only if a repository is configured, and it tests for what is accepted.
  refine .guard limit (.guard Text.isAllBlank_iff (.guard (positive _) (.guard (positive _) ?_)))
  cases config.journal.repository with
  | none => exact keywords
  | some repository =>
      dsimp only
      split
      · rename_i accepted
        exact .held (isRepository_iff.mp accepted) keywords
      · rename_i refused
        exact .violated (isRepository_iff.not.mp refused)

/-- The first condition that fails determines what is reported. -/
theorem reports_iff {config : Config} {result : Option Fault} :
    Reports config.conditions result ↔ config.fault? = result :=
  ⟨config.reports_fault?.unique, fun same => same ▸ config.reports_fault?⟩

/-- A configuration is accepted, and not changed, if and only if all conditions hold. -/
theorem validate_eq_ok_iff {config accepted : Config} :
    config.validate = .ok accepted ↔
      accepted = config ∧ ∀ condition ∈ config.conditions, condition.holds := by
  rw [← Condition.reports_none_iff, reports_iff, validate]
  cases config.fault? with
  | none => simp [eq_comm]
  | some fault => simp

/-- A configuration is refused with the fault of the first condition that fails. -/
theorem validate_eq_error_iff {config : Config} {fault : Fault} :
    config.validate = .error fault ↔ Condition.FirstViolated config.conditions fault := by
  rw [← Condition.reports_some_iff, reports_iff, validate]
  cases config.fault? with
  | none => simp
  | some first => simp

/-- The standard values meet all conditions, so that only a database has to be named. -/
theorem holds_of_standard {config : Config}
    (awaited : config.database.acquireTimeout = defaultAcquireTimeout)
    (journal : config.journal = JournalSettings.standard) (builtIn : config.keywords = none) :
    ∀ condition ∈ config.conditions, condition.holds := by
  rw [← Condition.reports_none_iff]
  unfold conditions
  rw [awaited, journal, builtIn]
  exact .held (by decide) (.held ⟨'j', by decide +kernel⟩ (.held (by decide) (.held (by decide) .nil)))

/-- A configuration that meets its conditions has a taxonomy. -/
theorem exists_taxonomy_of_holds {config : Config}
    (sound : ∀ condition ∈ config.conditions, condition.holds) :
    ∃ taxonomy, config.taxonomy = .ok taxonomy := by
  have keywords : ∀ condition ∈ keywordConditions config.keywords, condition.holds :=
    fun condition member => sound condition (by simp [conditions, member])
  have faultless : config.taxonomyFault? = none :=
    config.reports_taxonomyFault?.unique (Condition.reports_none_iff.mpr keywords)
  cases loaded : config.taxonomy with
  | ok taxonomy => exact ⟨taxonomy, rfl⟩
  | error fault =>
      rw [taxonomyFault?_eq, loaded] at faultless
      cases faultless

/-- A configuration that is accepted has a taxonomy. -/
theorem exists_taxonomy_of_parse {text : Text} {config : Config}
    (accepted : parse text = .ok config) : ∃ taxonomy, config.taxonomy = .ok taxonomy := by
  unfold parse at accepted
  cases decoded : decode? text with
  | none =>
      rw [decoded] at accepted
      cases accepted
  | some found =>
      rw [decoded] at accepted
      obtain ⟨rfl, sound⟩ := validate_eq_ok_iff.mp accepted
      exact exists_taxonomy_of_holds sound

/-- A configuration that meets its conditions names its repository properly, if it names one. -/
theorem journalRepository_none_of_holds {config : Config}
    (sound : ∀ condition ∈ config.conditions, condition.holds) {fault : Fault} :
    config.journalRepository none = .error fault ↔
      config.journal.repository = none ∧ fault = .repositoryNotSet := by
  cases configured : config.journal.repository with
  | none =>
      have unnamed : (none : Option Text).or config.journal.repository = none := configured
      simp [journalRepository_of_none unnamed, eq_comm]
  | some repository =>
      have named : (none : Option Text).or config.journal.repository = some repository := configured
      have form : IsOwnerAndName repository := by
        apply sound ⟨IsOwnerAndName repository, .repository repository⟩
        simp [conditions, repositoryConditions, configured]
      rw [journalRepository_of_some named, checkRepository_eq_error_iff]
      simp [form]

end Config

/-! ## Commands -/

/-- The keywords of a configuration that has a taxonomy are never the reason why a command ends. -/
theorem Command.run_ne_keywords {config : Config} {taxonomy : Taxonomy}
    (built : Command.buildTaxonomy config = .ok taxonomy) (world : World) (command : Command)
    (fault : Taxonomy.Fault) : (Command.run config world command).1 ≠ .error (.keywords fault) := by
  cases command with
  | createSchema =>
      simp only [run, runCreate]
      split <;> simp
  | sync given options json =>
      simp only [run, runSync, built, chooseRepository]
      cases config.journalRepository given with
      | error refused => simp [Except.mapError]
      | ok repository =>
          simp only [Except.mapError]
          split
          · simp
          · simp only [syncInto, printOutcome]
            split <;> simp
  | stats =>
      simp only [run, runStats]
      split
      · simp
      · rename_i connection connected _
        cases stateOf config connection connected with
        | error failure => simp [Except.mapError]
        | ok shown => simp [Except.mapError]
  | sources given => simp [run]
  | describe given =>
      simp only [run, buildSource, chooseRepository]
      cases config.journalRepository given with
      | error refused => simp [Except.mapError, Except.map]
      | ok repository => simp [Except.mapError, Except.map]
  | preview path date json =>
      simp only [run, previewText, built]
      split <;> simp

namespace Config

/-- **What is accepted, and what is reported.** Let a text denote a configuration. It is accepted as it
is if and only if all conditions hold; otherwise the fault of the first condition that does not hold is
reported. The taxonomy of an accepted configuration can be built, so that no command ends because of
its keywords; and without a given repository none is found if and only if none is configured. -/
theorem parse_of_decoded {text : Text} {config : Config} (decoded : decode? text = some config) :
    (∀ accepted, parse text = .ok accepted ↔
      accepted = config ∧ ∀ condition ∈ config.conditions, condition.holds) ∧
    (∀ fault, parse text = .error fault ↔ Condition.FirstViolated config.conditions fault) ∧
    ∀ accepted, parse text = .ok accepted →
      (∃ taxonomy, Command.buildTaxonomy accepted = .ok taxonomy) ∧
      (∀ world command fault,
        (Command.run accepted world command).1 ≠ .error (.keywords fault)) ∧
      ∀ fault, accepted.journalRepository none = .error fault ↔
        accepted.journal.repository = none ∧ fault = .repositoryNotSet := by
  have checked : parse text = config.validate := by rw [parse, decoded]
  refine ⟨fun accepted => ?_, fun fault => ?_, fun accepted parsed => ?_⟩
  · rw [checked, validate_eq_ok_iff]
  · rw [checked, validate_eq_error_iff]
  · rw [checked, validate_eq_ok_iff] at parsed
    obtain ⟨rfl, sound⟩ := parsed
    obtain ⟨taxonomy, loaded⟩ := exists_taxonomy_of_holds sound
    have built : Command.buildTaxonomy accepted = .ok taxonomy := by
      rw [Command.buildTaxonomy, loaded, Except.mapError]
    exact ⟨⟨taxonomy, built⟩, Command.run_ne_keywords built,
      fun fault => journalRepository_none_of_holds sound⟩

/-- Of two faulty entries the one with the lesser tag is reported, and of its keywords the blank one. A
configuration that only names a database is accepted. -/
theorem parse_of_decoded_faulty_table :
    let entries := [(" a ".toList, ["x".toList, " ".toList]), ("b".toList, [])]
    let database := { minimal with database.path := "d".toList }
    let refused := { database with
      journal.repository := some "o/n".toList, keywords := some (Dictionary.ofList entries) }
    let text := "db.path='d'\njournal.repo='o/n'\ntagger.keywords=\x7bb=[],' a '=['x',' ']\x7d".toList
    decode? text = some refused ∧
      parse text = .error (.keywords (.emptyKeyword "a".toList)) ∧
      decode? "db.path='d'".toList = some database ∧ parse "db.path='d'".toList = .ok database ∧
      (∃ taxonomy, Command.buildTaxonomy database = .ok taxonomy) ∧
      database.journalRepository none = .error .repositoryNotSet := by
  intro entries database refused text
  have decodedRefused : decode? text = some refused := by decide +kernel
  have decodedDatabase : decode? "db.path='d'".toList = some database := by decide +kernel
  have listing : (Dictionary.ofList entries).entries = entries := by decide +kernel
  have tag : Text.trim " a ".toList = "a".toList := by decide +kernel
  have table : Reports (Taxonomy.conditions (Dictionary.ofList entries))
      (some (.emptyKeyword "a".toList)) := by
    rw [Taxonomy.conditions, listing, ← tag]
    refine .held ⟨'a', by decide +kernel⟩ (.held (List.cons_ne_nil _ _) (.violated fun visible => ?_))
    exact absurd (visible " ".toList (by simp)) (Text.isAllBlank_iff.mp (by decide +kernel))
  have form : IsOwnerAndName "o/n".toList := isRepository_iff.mp (by decide +kernel)
  have reported : Reports refused.conditions (some (.keywords (.emptyKeyword "a".toList))) :=
    .held (by decide) (.held ⟨'j', by decide +kernel⟩ (.held (by decide) (.held (by decide)
      (.held form ((table.within Fault.keywords).append .nil)))))
  obtain ⟨_, refuses, _⟩ := parse_of_decoded decodedRefused
  obtain ⟨accepts, _, usable⟩ := parse_of_decoded decodedDatabase
  have accepted := (accepts database).mpr ⟨rfl, holds_of_standard rfl rfl rfl⟩
  obtain ⟨built, _, unset⟩ := usable database accepted
  exact ⟨decodedRefused, (refuses _).mpr (Condition.reports_some_iff.mp reported), decodedDatabase,
    accepted, built, (unset _).mpr ⟨rfl, rfl⟩⟩

end Config

end ThoughtJournal
