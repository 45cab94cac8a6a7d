import ThoughtJournal.Command.Run
import ThoughtJournal.Config.Decode

/-! # The command line

Arguments are options of the program, the name of a command, and options and values of the command.
The options of the program may stand before and after the name of the command; what stands after it
wins. An option is given at most once on either side. The first argument that cannot be understood
ends the reading, and so does the question for the version.
-/

namespace ThoughtJournal.CommandLine

/-! ## Options -/

/-- What an option does. -/
inductive Effect where
  /-- The option is there or not. -/
  | flag
  /-- The option counts how often it is there. -/
  | counter
  /-- The option has a value of which some are accepted. -/
  | value (accepts : Text → Bool)
  /-- The option asks for the version. -/
  | version

/-- An option with its name and, if it has one, its letter. -/
structure Spec where
  name : Text
  letter : Option Char
  effect : Effect

def isNotEmpty (text : Text) : Bool := !text.isEmpty

/-- The greatest number of journals that digits denote, after a plus sign if there is one. -/
def readLimit? (text : Text) : Option Nat :=
  let digits := match text with
    | '+' :: rest => rest
    | _ => text
  if digits.isEmpty then none
  else
    match digits.mapM Text.digit? with
    | some digits =>
        let limit := Text.valueOf 10 digits
        if limit < 18446744073709551616 then some limit else none
    | none => none

def programSpecs : List Spec := [
  ⟨"config".toList, none, .value isNotEmpty⟩,
  ⟨"repo".toList, none, .value fun _ => true⟩,
  ⟨"log-format".toList, none, .value fun text => text = "text".toList || text = "json".toList⟩,
  ⟨"verbose".toList, some 'v', .counter⟩]

/-- The options before the name of a command. -/
def rootSpecs : List Spec := ⟨"version".toList, some 'V', .version⟩ :: programSpecs

def syncSpecs : List Spec := [
  ⟨"full".toList, none, .flag⟩, ⟨"dry-run".toList, none, .flag⟩,
  ⟨"limit".toList, none, .value fun text => (readLimit? text).isSome⟩,
  ⟨"json".toList, none, .flag⟩]

def previewSpecs : List Spec :=
  [⟨"date".toList, none, .value fun _ => true⟩, ⟨"json".toList, none, .flag⟩]

/-! ## Reading arguments -/

/-- Why the reading of arguments ends early. -/
inductive Stop where
  /-- An argument cannot be understood, or one is missing. -/
  | usage
  /-- The version is asked for. -/
  | version
deriving DecidableEq, Repr

/-- Options with their values, in the order in which they are given. -/
abbrev Given := List (Text × Text)

def valueOf? (given : Given) (name : String) : Option Text := given.lookup name.toList

def has (given : Given) (name : String) : Bool := (valueOf? given name).isSome

/-- The options with one more. Only a counter may be given again. -/
def give (given : Given) (spec : Spec) (value : Text) : Except Stop Given :=
  match spec.effect with
  | .version => .error .version
  | .counter => .ok (given ++ [(spec.name, value)])
  | .flag | .value _ =>
      if (given.lookup spec.name).isSome then .error .usage else .ok (given ++ [(spec.name, value)])

/-- Reads the letters after a single dash. None of them has a value. -/
def readLetters (specs : List Spec) (given : Given) : Text → Except Stop Given
  | [] => .ok given
  | letter :: rest =>
      match specs.find? fun spec => spec.letter == some letter with
      | none => .error .usage
      | some spec =>
          match give given spec [] with
          | .error stop => .error stop
          | .ok given => readLetters specs given rest

/-- Whether an argument can be the value of the option before it. -/
def isValue : Text → Bool
  | ['-'] => true
  | '-' :: _ => false
  | _ => true

/-- Arguments that are read: the options, and the arguments that are none. -/
structure Arguments where
  given : Given
  plain : List Text

/-- Reads arguments. At the root the first argument that is no option ends the reading, and it and all
others are plain. -/
def readArguments (specs : List Spec) (root : Bool) (given : Given) :
    List Text → Except Stop Arguments
  | [] => .ok ⟨given, []⟩
  | ['-', '-'] :: rest =>
      if root && !rest.isEmpty then .error .usage else .ok ⟨given, rest⟩
  | ('-' :: '-' :: body) :: rest =>
      let name := body.takeWhile (· != '=')
      let attached := body.drop name.length
      match specs.find? fun spec => spec.name == name with
      | none => .error .usage
      | some spec =>
          match spec.effect, attached with
          | .value accepts, '=' :: value =>
              if accepts value then
                match give given spec value with
                | .error stop => .error stop
                | .ok given => readArguments specs root given rest
              else .error .usage
          | .value accepts, _ =>
              match rest with
              | [] => .error .usage
              | value :: rest =>
                  if isValue value && accepts value then
                    match give given spec value with
                    | .error stop => .error stop
                    | .ok given => readArguments specs root given rest
                  else .error .usage
          | _, [] =>
              match give given spec [] with
              | .error stop => .error stop
              | .ok given => readArguments specs root given rest
          | _, _ => .error .usage
  | ('-' :: letter :: letters) :: rest =>
      match readLetters specs given (letter :: letters) with
      | .error stop => .error stop
      | .ok given => readArguments specs root given rest
  | argument :: rest =>
      if root then .ok ⟨given, argument :: rest⟩
      else
        match readArguments specs root given rest with
        | .error stop => .error stop
        | .ok others => .ok { others with plain := argument :: others.plain }

/-! ## Invocations -/

/-- An invocation of the program: the file of its configuration, the repository that is given, and
the command. -/
structure Invocation where
  configPath : Text
  command : Command
deriving DecidableEq, Repr

def Invocation.paths (invocation : Invocation) : List Text :=
  match invocation.command with
  | .preview path _ _ => [invocation.configPath, path]
  | _ => [invocation.configPath]

/-- The file of the configuration if none is given. -/
def standardConfigPath : Text := "./config/brain.toml".toList

/-- The environment variable that can name the repository. -/
def repositoryVariable : Text := "JOURNAL_REPO".toList

/-- The command with a name, its options and its plain arguments. -/
def commandOf (repository : Option Text) (name : Text) (arguments : Arguments) :
    Except Stop Command :=
  let given := arguments.given
  if name = "atomize".toList then
    match arguments.plain with
    | [path] =>
        if path.isEmpty then .error .usage
        else .ok (.preview path (valueOf? given "date") (has given "json"))
    | _ => .error .usage
  else if !arguments.plain.isEmpty then .error .usage
  else if name = "init".toList then .ok .createSchema
  else if name = "sources".toList then .ok (.sources repository)
  else if name = "stats".toList then .ok .stats
  else
    let limit := (valueOf? given "limit").bind readLimit?
    .ok (.sync repository ⟨has given "full", has given "dry-run", limit⟩ (has given "json"))

def specsOf? (name : Text) : Option (List Spec) :=
  if name = "sync".toList then some (syncSpecs ++ programSpecs)
  else if name = "atomize".toList then some (previewSpecs ++ programSpecs)
  else if name = "init".toList ∨ name = "sources".toList ∨ name = "stats".toList then
    some programSpecs
  else none

/-- The invocation that arguments ask for, given the environment variables. -/
def parse (environment : Dictionary Text) (arguments : List Text) : Except Stop Invocation := do
  let root ← readArguments rootSpecs true [] arguments
  match root.plain with
  | [] => .error .usage
  | name :: rest =>
      match specsOf? name with
      | none => .error .usage
      | some specs =>
          let arguments ← readArguments specs false [] rest
          let chosen (option : String) : Option Text :=
            (valueOf? arguments.given option).or (valueOf? root.given option)
          let repository := (chosen "repo").or (environment.get? repositoryVariable)
          let command ← commandOf repository name arguments
          return ⟨(chosen "config").getD standardConfigPath, command⟩

/-! ## Running the program -/

/-- How an invocation ends: its exit code, what it prints, and what it tells of a fault. -/
structure Ending where
  code : Nat
  output : Text
  fault : Option Text
deriving DecidableEq, Repr

def versionText : Text := "brain 0.3.0\n".toList

/-- The ending of an invocation that succeeds and prints a text. -/
def Ending.success (output : Text) : Ending := ⟨0, output, none⟩

/-- The ending of an invocation that fails for a reason. -/
def Ending.failure (reason : Text) : Ending := ⟨1, [], some ("Error: ".toList ++ reason)⟩

/-- The ending of an invocation that cannot be understood. -/
def Ending.usage : Ending := ⟨2, [], none⟩

def dateComplaint (date : Text) : Text :=
  "--date must be YYYY-MM-DD, got '".toList ++ date ++ ['\'']

/-- The configuration of an invocation. A preview does not need one. -/
def configOf (files : Files) (invocation : Invocation) : Except Config.Fault Config :=
  match invocation.command with
  | .preview _ _ _ =>
      if files.holds invocation.configPath then Config.load files invocation.configPath
      else .ok Config.minimal
  | _ => Config.load files invocation.configPath

/-- The date of an invocation that is given but is none. -/
def badDate? (invocation : Invocation) : Option Text :=
  match invocation.command with
  | .preview _ (some date) _ => if (Calendar.parse? date).isSome then none else some date
  | _ => none

/-- What a command prints besides its own text. -/
def epilogue : Command → Text
  | .createSchema => "Database initialized successfully.\n".toList
  | _ => []

def perform (world : World) (invocation : Invocation) : Ending × World :=
  match badDate? invocation with
  | some date => (Ending.failure (dateComplaint date), world)
  | none =>
      match configOf world.files invocation with
      | .error fault => (Ending.failure fault.failure.outermost, world)
      | .ok config =>
          let result := Command.run config world invocation.command
          match result.1 with
          | .ok output => (Ending.success (output ++ epilogue invocation.command), result.2)
          | .error fault => (Ending.failure fault.failure.outermost, result.2)

/-- Runs the program with arguments. -/
def run (world : World) (arguments : List Text) : Ending × World :=
  match parse world.surroundings.environment arguments with
  | .error .usage => (Ending.usage, world)
  | .error .version => (Ending.success versionText, world)
  | .ok invocation => perform world invocation

end ThoughtJournal.CommandLine
