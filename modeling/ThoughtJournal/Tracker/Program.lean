import ThoughtJournal.Config.Basic
import ThoughtJournal.Sync.Report
import ThoughtJournal.Text.Utf8
import ThoughtJournal.Tracker.Issue

/-! # A tracker behind a command line program

The program is run once for the index, once for every body and once for its version. What a run ends
with is either its output or the failure to start it, to wait for it, or of the program itself.
-/

namespace ThoughtJournal.Tracker

/-- How a run of a program ends. -/
inductive Execution where
  /-- The program cannot be started. -/
  | notStarted (reason : Text)
  /-- The program does not end in time. -/
  | unanswered
  /-- The program ends with a status. -/
  | exited (status : Nat) (output errors : Bytes)
  /-- The program is ended by a signal. -/
  | signalled (signal : Nat) (errors : Bytes)
deriving DecidableEq, Repr

def signalNames : List (Nat × String) := [
  (1, "SIGHUP"), (2, "SIGINT"), (3, "SIGQUIT"), (4, "SIGILL"), (5, "SIGTRAP"), (6, "SIGABRT"),
  (7, "SIGBUS"), (8, "SIGFPE"), (9, "SIGKILL"), (10, "SIGUSR1"), (11, "SIGSEGV"), (12, "SIGUSR2"),
  (13, "SIGPIPE"), (14, "SIGALRM"), (15, "SIGTERM"), (16, "SIGSTKFLT"), (17, "SIGCHLD"),
  (18, "SIGCONT"), (19, "SIGSTOP"), (20, "SIGTSTP"), (21, "SIGTTIN"), (22, "SIGTTOU"),
  (23, "SIGURG"), (24, "SIGXCPU"), (25, "SIGXFSZ"), (26, "SIGVTALRM"), (27, "SIGPROF"),
  (28, "SIGWINCH"), (29, "SIGIO"), (30, "SIGPWR"), (31, "SIGSYS")]

def signalText (signal : Nat) : Text :=
  "signal: ".toList ++ Text.ofNat signal ++
    match signalNames.lookup signal with
    | some name => " (".toList ++ name.toList ++ [')']
    | none => []

/-- The program of a tracker: where it is, which journals it is asked for, and for how many seconds
it is awaited. -/
structure Program where
  path : Text
  repository : Text
  label : Text
  limit : Nat
  timeout : Nat
deriving DecidableEq, Repr

namespace Program

/-- The program that a configuration names, asked for a repository. -/
def ofConfig (config : Config) (repository : Text) : Program where
  path := config.journal.programPath
  repository := repository
  label := config.journal.label
  limit := config.journal.limit
  timeout := config.journal.timeout

def describe (program : Program) : Text := "gh:".toList ++ program.repository

def indexArguments (program : Program) : List Text :=
  ["issue".toList, "list".toList, "--repo".toList, program.repository, "--label".toList,
    program.label, "--state".toList, "all".toList, "--limit".toList, Text.ofNat program.limit,
    "--json".toList, "number,title".toList]

def bodyArguments (program : Program) (id : Int) : List Text :=
  ["issue".toList, "view".toList, Text.ofInt id, "--repo".toList, program.repository,
    "--json".toList, "body".toList, "--jq".toList, ".body".toList]

def versionArguments : List Text := ["--version".toList]

/-- Whether a path or an argument cannot be handed to a program because it holds a NUL character. -/
def holdsNul (text : Text) : Bool := text.any (· == '\x00')

/-- The output of a run, or why there is none. -/
def output (program : Program) (arguments : List Text) (execution : Execution) :
    Except Failure Text :=
  let called := program.path ++ [' '] ++ Text.join [' '] arguments
  let failed (status : Text) (errors : Bytes) : Failure :=
    Failure.of (called ++ " failed (".toList ++ status ++ "): ".toList ++
      Text.trim (Utf8.decodeLossy errors))
  match execution with
  | .notStarted reason => .error ⟨"Failed to run ".toList ++ program.path, [reason]⟩
  | .unanswered =>
      .error ⟨program.path ++ [' '] ++ arguments.headD [] ++ " timed out after ".toList ++
        Text.ofNat program.timeout ++ ['s'], ["deadline has elapsed".toList]⟩
  | .exited 0 output _ => .ok (Utf8.decodeLossy output)
  | .exited status _ errors =>
      .error (failed ("exit status: ".toList ++ Text.ofNat status) errors)
  | .signalled signal errors => .error (failed (signalText signal) errors)

/-- How a run ends, given what the program does. Nothing is started with a NUL character in the path
or in an argument. -/
def execute (program : Program) (behaviour : List Text → Execution) (arguments : List Text) :
    Execution :=
  if (program.path :: arguments).any holdsNul then
    .notStarted "nul byte found in provided data".toList
  else behaviour arguments

def call (program : Program) (behaviour : List Text → Execution) (arguments : List Text) :
    Except Failure Text :=
  program.output arguments (program.execute behaviour arguments)

/-- The first line of what the program says about its version. -/
def version (program : Program) (behaviour : List Text → Execution) : Except Failure Text :=
  (program.call behaviour versionArguments).map fun output =>
    Text.trim ((Text.lines output).headD [])

/-- The journals of an index in the program's words. -/
def journalsOf (output : Text) : Except Failure (List Journal) :=
  match Issue.readListing? output with
  | some issues => .ok (Issue.journals issues)
  | none => .error (Failure.of "Failed to parse gh issue list output".toList)

def index (program : Program) (behaviour : List Text → Execution) :
    Except Failure (List Journal) :=
  match program.call behaviour program.indexArguments with
  | .ok output => journalsOf output
  | .error failure => .error failure

def body (program : Program) (behaviour : List Text → Execution) (id : Int) :
    Except Failure Text :=
  program.call behaviour (program.bodyArguments id)

/-- The program as the source of a sync. -/
def source (program : Program) (behaviour : List Text → Execution) : Sync.Source where
  name := program.describe
  index := program.index behaviour
  body _ id := program.body behaviour id

end Program

end ThoughtJournal.Tracker
