import ThoughtJournal.Failure
import ThoughtJournal.Taxonomy

/-! # Configurations

What a configuration says about the database, the journal repository, the REST interface of the
tracker and the keywords of the taxonomy, and which of its values are accepted. The conditions are
checked in a fixed order, and the first one that is violated is reported.
-/

namespace ThoughtJournal

/-- The two ways to reach a tracker: its command line program or its REST interface. -/
inductive Transport where
  | program
  | rest
deriving DecidableEq, Repr

def Transport.name : Transport → Text
  | .program => ['g', 'h']
  | .rest => ['a', 'p', 'i']

def Transport.ofName? (text : Text) : Option Transport :=
  if text = Transport.program.name then some .program
  else if text = Transport.rest.name then some .rest
  else none

namespace Config

/-- Where thoughts are stored, and for how many seconds a connection is awaited. -/
structure DatabaseSettings where
  path : Text
  acquireTimeout : Nat
deriving DecidableEq, Repr

/-- Which journals are read, and how. -/
structure JournalSettings where
  repository : Option Text
  label : Text
  limit : Nat
  transport : Transport
  timeout : Nat
  programPath : Text
deriving DecidableEq, Repr

/-- Where the REST interface is, and which environment variable holds its token. -/
structure RestSettings where
  url : Text
  tokenVariable : Text
deriving DecidableEq, Repr

end Config

/-- A configuration. -/
structure Config where
  database : Config.DatabaseSettings
  journal : Config.JournalSettings
  rest : Config.RestSettings
  /-- The table that takes the place of the built-in taxonomy. -/
  keywords : Option (Dictionary (List Text))
deriving DecidableEq

namespace Config

/-! ## Values that need not be given -/

/-- The time that a connection to the database is awaited. -/
def defaultAcquireTimeout : Nat := 10

/-- The journals of a configuration without such a section. -/
def JournalSettings.standard : JournalSettings where
  repository := none
  label := "journal".toList
  limit := 50
  transport := .program
  timeout := 30
  programPath := ['g', 'h']

/-- The REST interface of a configuration without such a section. -/
def RestSettings.standard : RestSettings where
  url := "https://api.github.com".toList
  tokenVariable := "GITHUB_TOKEN".toList

/-- The configuration that holds where none is given. -/
def minimal : Config where
  database := ⟨"./data/brain.sqlite".toList, defaultAcquireTimeout⟩
  journal := JournalSettings.standard
  rest := RestSettings.standard
  keywords := none

/-! ## Accepted values -/

/-- Whether a text has the form of an owner and a name with one slash between them. -/
def isRepository (text : Text) : Bool :=
  match Text.splitOn '/' text with
  | [owner, name] => !owner.isEmpty && !name.isEmpty
  | _ => false

/-- Why there is no configuration, or why a value of it is not accepted. -/
inductive Fault where
  /-- The file cannot be read. -/
  | unreadable (path reason : Text)
  /-- The text is no TOML document, or its values do not have the expected types. -/
  | malformed
  /-- The greatest number of journals does not lie between 1 and 100. -/
  | limit
  /-- The label has no visible character. -/
  | label
  /-- The time-out of the tracker is zero. -/
  | timeout
  /-- The time-out of the database is zero. -/
  | acquireTimeout
  /-- The repository is not an owner and a name. -/
  | repository (text : Text)
  /-- The table of keywords is not a taxonomy. -/
  | keywords (fault : Taxonomy.Fault)
  /-- A repository is needed but none is named. -/
  | repositoryNotSet
deriving DecidableEq, Repr

def Fault.failure : Fault → Failure
  | .unreadable path reason => ⟨"Failed to read config file: ".toList ++ path, [reason]⟩
  | .malformed => Failure.of "Failed to parse config file".toList
  | .limit => Failure.of "journal.limit must be between 1 and 100".toList
  | .label => Failure.of "journal.label must not be empty".toList
  | .timeout => Failure.of "journal.timeout_secs must be > 0".toList
  | .acquireTimeout => Failure.of "db.acquire_timeout_secs must be > 0".toList
  | .repository text =>
      Failure.of ("journal repository must look like 'owner/name', got '".toList ++ text ++ ['\''])
  | .keywords fault => ⟨"Invalid [tagger.keywords] table".toList, [fault.message]⟩
  | .repositoryNotSet => Failure.of
      ("journal repository not set: use --repo, JOURNAL_REPO, or ".toList ++
        "journal.repo in the config".toList)

/-- The repository as it is written, if it is an owner and a name. -/
def checkRepository (text : Text) : Except Fault Text :=
  if isRepository text then .ok text else .error (.repository text)

def taxonomy (config : Config) : Except Taxonomy.Fault Taxonomy :=
  match config.keywords with
  | none => .ok Taxonomy.builtIn
  | some table => Taxonomy.ofTable table

def taxonomyFault? (config : Config) : Option Fault :=
  match config.taxonomy with
  | .ok _ => none
  | .error fault => some (.keywords fault)

/-- The first fault of a configuration. -/
def fault? (config : Config) : Option Fault :=
  if config.journal.limit < 1 || 100 < config.journal.limit then some .limit
  else if Text.isAllBlank config.journal.label then some .label
  else if config.journal.timeout == 0 then some .timeout
  else if config.database.acquireTimeout == 0 then some .acquireTimeout
  else
    match config.journal.repository with
    | some repository =>
        if isRepository repository then config.taxonomyFault? else some (.repository repository)
    | none => config.taxonomyFault?

/-- The configuration, if all its values are accepted. -/
def validate (config : Config) : Except Fault Config :=
  match config.fault? with
  | none => .ok config
  | some fault => .error fault

/-- The repository whose journals are read: the given one, or else that of the configuration. -/
def journalRepository (config : Config) (given : Option Text) : Except Fault Text :=
  match given with
  | some repository => checkRepository repository
  | none =>
      match config.journal.repository with
      | some repository => checkRepository repository
      | none => .error .repositoryNotSet

end Config

end ThoughtJournal
