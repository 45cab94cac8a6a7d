import Std.Time.Zoned
import ThoughtJournal.CommandLine

/-! # The program

The command line with the files, the environment variables and the calendar of the machine. Other
programs and the network are not reached from here, and databases last as long as the process.
-/

namespace ThoughtJournal

/-- The bytes of the file under a path, if it can be read. -/
def readFile? (path : Text) : IO (Option Bytes) := do
  try
    let contents ← IO.FS.readBinFile (String.ofList path)
    return some contents.toList
  catch _ => return none

/-- The files under the given paths that can be read. -/
def readFiles (paths : List Text) : IO Files := do
  let mut files := Files.empty
  for path in paths do
    if let some contents ← readFile? path then
      files := files.write path (.bytes contents)
  return files

/-- The values of the environment variables with the given names. -/
def readEnvironment (names : List Text) : IO (Dictionary Text) := do
  let mut values := Dictionary.empty
  for name in names do
    if let some value ← IO.getEnv (String.ofList name) then
      values := values.insert name value.toList
  return values

def readToday : IO Calendar.Date := do
  let today ← Std.Time.PlainDate.now
  return ⟨today.year.toInt, today.month.val.toNat, today.day.val.toNat⟩

def readWorld (arguments : List Text) : IO World := do
  let given ← readEnvironment [CommandLine.repositoryVariable]
  let invocation := (CommandLine.parse given arguments).toOption
  let files ← readFiles ((invocation.map CommandLine.Invocation.paths).getD [])
  let config := (invocation.bind fun invocation =>
    (CommandLine.configOf files invocation).toOption).getD Config.minimal
  let environment ←
    readEnvironment [CommandLine.repositoryVariable, config.rest.tokenVariable]
  let today ← readToday
  let surroundings : Surroundings := {
    environment
    program := fun _ _ _ => .notStarted Files.Fault.notFound.message
    network := fun _ => .unreachable ["Network is unreachable (os error 101)".toList]
    today := today.text }
  return ⟨surroundings, files⟩

end ThoughtJournal

open ThoughtJournal in
/-- Runs the program with the arguments of the command line and gives its exit code. -/
def main (arguments : List String) : IO UInt32 := do
  let arguments := arguments.map String.toList
  let world ← readWorld arguments
  let ending := (CommandLine.run world arguments).1
  IO.print (String.ofList ending.output)
  if let some fault := ending.fault then
    IO.eprintln (String.ofList fault)
  return UInt32.ofNat ending.code
