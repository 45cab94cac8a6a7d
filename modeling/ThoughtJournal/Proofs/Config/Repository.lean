import ThoughtJournal.Config.Basic
import ThoughtJournal.Proofs.Text.Lines

/-! # Names of repositories

A repository is named by its owner and its name with a slash between them. The fields between the
slashes of a text tell whether it has this form (`Config.isRepository_iff`).

The journals are read from the repository that is given, or else from that of the configuration. What
is given is never replaced, also if it does not name a repository, and what names a repository is
passed on as it is (`Config.journalRepository_resolves`).
-/

namespace ThoughtJournal.Config

variable {text repository : Text} {fault : Fault}

/-- An owner and a name with a slash between them. Both are filled and have no slash. -/
def IsOwnerAndName (text : Text) : Prop :=
  ∃ owner name : Text, text = owner ++ '/' :: name ∧ (owner ≠ [] ∧ '/' ∉ owner) ∧
    (name ≠ [] ∧ '/' ∉ name)

/-- The form of a text is that of its fields. -/
theorem isRepository_iff : isRepository text = true ↔ IsOwnerAndName text := by
  unfold isRepository
  constructor
  · intro accepted
    split at accepted
    · rename_i owner name fields
      obtain ⟨joined, free⟩ := (Text.splitOn_eq_iff (List.cons_ne_nil _ _)).mp fields
      simp only [Bool.and_eq_true, Bool.not_eq_true', List.isEmpty_eq_false_iff] at accepted
      refine ⟨owner, name, ?_, ⟨accepted.1, free owner (by simp)⟩, accepted.2, free name (by simp)⟩
      rw [joined, Text.join_cons (List.cons_ne_nil _ _), Text.join_singleton]
    · cases accepted
  · rintro ⟨owner, name, rfl, ⟨filledOwner, freeOwner⟩, filledName, freeName⟩
    rw [Text.splitOn_append freeOwner, Text.splitOn_of_free freeName]
    simp [filledOwner, filledName]

/-! ## The repository that is read -/

/-- The check accepts the texts with an owner and a name, as they are. -/
theorem checkRepository_eq_ok_iff :
    checkRepository text = .ok repository ↔ repository = text ∧ IsOwnerAndName text := by
  unfold checkRepository
  split
  · rename_i accepted
    simp [isRepository_iff.mp accepted, eq_comm]
  · rename_i refused
    simp [isRepository_iff.not.mp refused]

/-- The check refuses all other texts, and names the text it refuses. -/
theorem checkRepository_eq_error_iff :
    checkRepository text = .error fault ↔ fault = .repository text ∧ ¬ IsOwnerAndName text := by
  unfold checkRepository
  split
  · rename_i accepted
    simp [isRepository_iff.mp accepted]
  · rename_i refused
    simp [isRepository_iff.not.mp refused, eq_comm]

/-- What is given goes before what is configured. -/
theorem journalRepository_of_some {config : Config} {given : Option Text}
    (named : given.or config.journal.repository = some text) :
    config.journalRepository given = checkRepository text := by
  unfold journalRepository
  cases given with
  | some override => rw [Option.some.inj named]
  | none =>
      have configured : config.journal.repository = some text := named
      rw [configured]

/-- Where no repository is named, that is the fault. -/
theorem journalRepository_of_none {config : Config} {given : Option Text}
    (unnamed : given.or config.journal.repository = none) :
    config.journalRepository given = .error .repositoryNotSet := by
  obtain ⟨rfl, unset⟩ := Option.or_eq_none_iff.mp unnamed
  unfold journalRepository
  rw [unset]

/-- **The repository that is resolved.** The text in question is the given one, if any, and otherwise
that of the configuration. It is the result, unchanged, if and only if it is an owner and a name;
if it is not, it is reported, and if there is no text, that is reported. So a given text is resolved in
the same way whatever the configuration is. -/
theorem journalRepository_resolves (config : Config) (given : Option Text) :
    (∀ repository, config.journalRepository given = .ok repository ↔
      given.or config.journal.repository = some repository ∧ IsOwnerAndName repository) ∧
    (∀ fault, config.journalRepository given = .error fault ↔
      (given.or config.journal.repository = none ∧ fault = .repositoryNotSet) ∨
        ∃ text, given.or config.journal.repository = some text ∧ ¬ IsOwnerAndName text ∧
          fault = .repository text) ∧
    ∀ (override : Text) (other : Config),
      config.journalRepository (some override) = other.journalRepository (some override) := by
  refine ⟨fun repository => ?_, fun fault => ?_, fun override other => rfl⟩
  · cases named : given.or config.journal.repository with
    | none => simp [journalRepository_of_none named]
    | some text =>
        rw [journalRepository_of_some named, checkRepository_eq_ok_iff, Option.some.injEq]
        constructor
        · rintro ⟨rfl, form⟩
          exact ⟨rfl, form⟩
        · rintro ⟨rfl, form⟩
          exact ⟨rfl, form⟩
  · cases named : given.or config.journal.repository with
    | none => simp [journalRepository_of_none named, eq_comm]
    | some text =>
        rw [journalRepository_of_some named, checkRepository_eq_error_iff]
        simp [and_comm]

end ThoughtJournal.Config
