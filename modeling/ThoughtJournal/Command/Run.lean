import ThoughtJournal.Calendar
import ThoughtJournal.Command.Print
import ThoughtJournal.Command.World
import ThoughtJournal.Sync.Run

/-! # Commands

The commands of the program as functions of the world. A command prints a text or ends with a fault,
and only a sync that is not dry adds thoughts to a database; the commands that open a database leave
its file with the schema behind.
-/

namespace ThoughtJournal

/-- A command with its arguments. A repository that is given takes the place of the configured
one. -/
inductive Command where
  /-- Creates the schema of the database. -/
  | createSchema
  /-- Reads new journals into the database. -/
  | sync (given : Option Text) (options : Sync.Options) (json : Bool)
  /-- Shows the state of the database. -/
  | stats
  /-- Shows the sources and whether they can be reached. -/
  | sources (given : Option Text)
  /-- Shows the name of the source in use. -/
  | describe (given : Option Text)
  /-- Shows the thoughts of a file. -/
  | preview (path : Text) (date : Option Text) (json : Bool)
deriving DecidableEq, Repr

namespace Command

/-- Why a command ends before its time. -/
inductive Fault where
  | config (fault : Config.Fault)
  | keywords (fault : Taxonomy.Fault)
  | sync (fault : Sync.Fault)
  | store (failure : Failure)
  | unreadable (path : Text) (fault : Files.Fault)
deriving DecidableEq, Repr

def Fault.failure : Fault → Failure
  | .config fault => fault.failure
  | .keywords fault => Failure.of fault.message
  | .sync fault => Failure.of fault.message
  | .store failure => failure
  | .unreadable path fault => ⟨"Failed to read journal file: ".toList ++ path, [fault.message]⟩

/-- The text that a command prints, or why there is none. -/
abbrev Output := Except Fault Text

/-! ## Sources -/

/-- The REST interface of a configuration. The token is the value of an environment variable. -/
def restOf (config : Config) (surroundings : Surroundings) (repository : Text) : Tracker.Rest :=
  Tracker.Rest.ofConfig config repository (surroundings.environment.get? config.rest.tokenVariable)

/-- What the program of a configuration does with its arguments. -/
def programBehaviour (config : Config) (world : World) : List Text → Tracker.Execution :=
  world.surroundings.program world.files config.journal.programPath

/-- The source that a configuration names, asked for a repository. -/
def sourceOf (config : Config) (world : World) (repository : Text) : Sync.Source :=
  match config.journal.transport with
  | .program =>
      (Tracker.Program.ofConfig config repository).source (programBehaviour config world)
  | .rest => (restOf config world.surroundings repository).source world.surroundings.network

def chooseRepository (config : Config) (given : Option Text) : Except Fault Text :=
  (config.journalRepository given).mapError .config

def buildSource (config : Config) (world : World) (given : Option Text) :
    Except Fault Sync.Source :=
  (chooseRepository config given).map (sourceOf config world)

def buildTaxonomy (config : Config) : Except Fault Taxonomy :=
  config.taxonomy.mapError .keywords

/-! ## Syncs and the state of the store -/

/-- Prints the report of a sync, or tells why there is none. -/
def printOutcome (json : Bool) (source : Sync.Source) :
    Except Sync.Fault Sync.Report → Output
  | .ok report =>
      .ok (if json then Print.document (Print.reportDocument report)
        else Print.report source.name report)
  | .error fault => .error (.sync fault)

def syncInto (config : Config) (repository : Text) (taxonomy : Taxonomy) (options : Sync.Options)
    (json : Bool) (connection : Connection) (world : World) : Output × World :=
  let source := sourceOf config world repository
  let result := Sync.run source taxonomy options connection
  (printOutcome json source result.outcome, world.save result.store)

def runSync (config : Config) (given : Option Text) (options : Sync.Options) (json : Bool)
    (world : World) : Output × World :=
  match chooseRepository config given, buildTaxonomy config with
  | .error fault, _ => (.error fault, world)
  | .ok _, .error fault => (.error fault, world)
  | .ok repository, .ok taxonomy =>
      match world.connect config with
      | (.error failure, world) => (.error (.store failure), world)
      | (.ok connection, world) =>
          syncInto config repository taxonomy options json connection world

def stateOf (config : Config) (connection : Connection) (world : World) : Except Failure Text := do
  let total ← ThoughtStore.count connection
  let watermark ← ThoughtStore.latest connection
  let stats ← ThoughtStore.stats connection
  let path := config.database.path
  let size := world.files.sizeOf world.surroundings.databaseSize path
  return Print.storeState path size total watermark stats

def runStats (config : Config) (world : World) : Output × World :=
  match world.connect config with
  | (.error failure, world) => (.error (.store failure), world)
  | (.ok connection, world) =>
      ((stateOf config connection world).mapError .store, world)

def runCreate (config : Config) (world : World) : Output × World :=
  match world.connect config with
  | (.error failure, world) => (.error (.store failure), world)
  | (.ok _, world) => (.ok [], world)

/-! ## Sources and previews -/

/-- The row of the program in the table of sources. -/
def programRow (config : Config) (world : World) (repository shown : Text) : Text :=
  let name := Print.sourceName (config.journal.transport == .program) Transport.program.name
  let program := Tracker.Program.ofConfig config repository
  match program.version (programBehaviour config world) with
  | .ok version => Print.sourceRow name shown "OK".toList version
  | .error failure => Print.sourceRow name shown "MISSING".toList failure.message

/-- The row of the REST interface in the table of sources. -/
def restRow (config : Config) (surroundings : Surroundings) (repository shown : Text) : Text :=
  let name := Print.sourceName (config.journal.transport == .rest) Transport.rest.name
  let state := if (restOf config surroundings repository).hasToken then " set)" else " unset)"
  Print.sourceRow name shown "OK".toList
    (config.rest.url ++ " (token: $".toList ++ config.rest.tokenVariable ++ state.toList)

/-- The table of sources, and why there is no repository if there is none. -/
def sourcesText (config : Config) (world : World) (given : Option Text) : Text :=
  let rows (repository shown : Text) : List Text :=
    [Print.sourceHeading, programRow config world repository shown,
      restRow config world.surroundings repository shown]
  match config.journalRepository given with
  | .ok repository => Print.unlines (rows repository repository)
  | .error fault =>
      Print.unlines (rows ['-'] "NOT CONFIGURED".toList ++ [[], fault.failure.outermost])

/-- The date that the name of a file tells, or else the date of today. -/
def dateOfPath (path today : Text) : Text :=
  match Path.stem? path with
  | some stem => if (Calendar.parse? stem).isSome then stem else today
  | none => today

def previewText (config : Config) (world : World) (path : Text) (date : Option Text) (json : Bool) :
    Output :=
  match world.files.readText path with
  | .error fault => .error (.unreadable path fault)
  | .ok body =>
      match buildTaxonomy config with
      | .error fault => .error fault
      | .ok taxonomy =>
          let date := date.getD (dateOfPath path world.surroundings.today)
          let thoughts := taxonomy.atomize date body
          .ok (if json then Print.document (.array (thoughts.map Print.thoughtDocument))
            else Print.preview date thoughts)

/-- Carries out a command. -/
def run (config : Config) (world : World) : Command → Output × World
  | .createSchema => runCreate config world
  | .sync given options json => runSync config given options json world
  | .stats => runStats config world
  | .sources given => (.ok (sourcesText config world given), world)
  | .describe given => ((buildSource config world given).map fun source => source.name, world)
  | .preview path date json => (previewText config world path date json, world)

/-! ## Histories -/

/-- What happens in a history: a command, a change of the surroundings, or a file of so many bytes
under the path of the database. -/
inductive Event where
  | command (command : Command)
  | surroundings (change : Surroundings → Surroundings)
  | resize (size : Nat)

/-- The outputs of the commands of a history, and the world afterwards. -/
def history (config : Config) (world : World) : List Event → List Output × World
  | [] => ([], world)
  | .command command :: rest =>
      let first := run config world command
      let others := history config first.2 rest
      (first.1 :: others.1, others.2)
  | .surroundings change :: rest =>
      history config { world with surroundings := change world.surroundings } rest
  | .resize size :: rest => history config (world.resize config size) rest

end Command

end ThoughtJournal
